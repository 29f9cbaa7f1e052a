import BracketBalance.Proofs.Places
import BracketBalance.Proofs.WellFormed

namespace BracketBalance

def Piece.token (piece : Piece) (filename : String) (source : Option Nat) (start : Position) :
    Token where
  kind := piece.kind
  lexeme := String.ofList piece.lexeme
  source := source
  filename := filename
  start := start
  stop := start.advanceAll piece.lexeme

def Piece.ending : Piece := ⟨.endOfText, []⟩

/-- The tokens of pieces that stand one after the other. -/
def layout (filename : String) (source : Option Nat) : Position → List Piece → List Token
  | _, [] => []
  | start, piece :: pieces =>
    piece.token filename source start ::
      layout filename source (start.advanceAll piece.lexeme) pieces

def spelling (n : Nat) (pieces : List Piece) : List Char :=
  (pieces.take n).flatMap Piece.lexeme

theorem spelling_succ (n : Nat) (pieces : List Piece) :
    spelling (n + 1) pieces = spelling n pieces ++ (pieces[n]?.getD .ending).lexeme := by
  rw [spelling, List.take_add_one, List.flatMap_append]
  cases pieces[n]? with
  | none => rfl
  | some piece =>
    rw [Option.toList_some, List.flatMap_singleton]
    rfl

theorem spelling_prefix (n : Nat) (pieces : List Piece) :
    spelling n pieces <+: pieces.flatMap Piece.lexeme := by
  refine ⟨(pieces.drop n).flatMap Piece.lexeme, ?_⟩
  rw [spelling, ← List.flatMap_append, List.take_append_drop]

theorem spelling_of_length_le {n : Nat} {pieces : List Piece} (h : pieces.length ≤ n) :
    spelling n pieces = pieces.flatMap Piece.lexeme := by
  rw [spelling, List.take_of_length_le h]

section

variable {filename : String} {source : Option Nat}

theorem getElem?_layout (n : Nat) (start : Position) (pieces : List Piece) :
    (layout filename source start pieces)[n]? =
      pieces[n]?.map fun piece => piece.token filename source (start.advanceAll (spelling n pieces)) := by
  induction pieces generalizing n start with
  | nil => rfl
  | cons piece pieces ih =>
    cases n with
    | zero => rfl
    | succ n =>
      rw [layout, List.getElem?_cons_succ, List.getElem?_cons_succ, ih, ← Position.advanceAll_append]
      rfl

end

theorem Mode.entering_ne_commentReturn (kind : Kind) : Mode.entering kind ≠ .commentReturn := by
  cases kind <;> decide

theorem Mode.inString_ne_commentReturn (upcoming : Option Char) :
    Mode.inString upcoming ≠ .commentReturn := by
  unfold Mode.inString
  split <;> decide

theorem Mode.transition_next_eq_commentReturn {mode : Mode} {read upcoming : Option Char}
    (h : (mode.transition read upcoming).next = .commentReturn) : upcoming = some '\r' := by
  cases mode <;> simp only [Mode.transition] at h <;>
    first
    | exact absurd h (entering_ne_commentReturn _)
    | exact absurd h (inString_ne_commentReturn _)
    | (split at h <;> first | rfl | cases h)

namespace Lexer

/-- The lexer has kept the place of a named text that ends at a goal. -/
structure Sited (filename : String) (source : Option Nat) (goal : Position) (lexer : Lexer) :
    Prop where
  filename : lexer.filename = filename
  source : lexer.source = source
  position : lexer.position = lexer.start.advanceAll lexer.pending.reverse
  goal : lexer.position.advanceAll lexer.rest = goal

def AtReturn (lexer : Lexer) : Prop :=
  lexer.mode = .commentReturn → lexer.rest.head? = some '\r'

variable {filename : String} {source : Option Nat} {goal : Position} {lexer : Lexer}

theorem sited_ofChars (text : List Char) (filename : String) (source : Option Nat) :
    (ofChars text filename source).Sited filename source (.ofText text) where
  filename := rfl
  source := rfl
  position := rfl
  goal := Position.advanceAll_origin text

theorem AtReturn.round : lexer.round.2.AtReturn := by
  intro h
  rw [round_mode] at h
  rw [round_rest]
  exact Mode.transition_next_eq_commentReturn h

theorem AtReturn.head_pending (h : lexer.AtReturn) (hm : lexer.mode = .commentReturn) :
    lexer.read.2.pending.head? = some '\r' := by
  obtain ⟨rest, hr⟩ := List.head?_eq_some_iff.mp (h hm)
  rw [read_of_reading hr (by simp [hm]) (by simp [hm])]
  rfl

theorem Sited.read (h : lexer.Sited filename source goal) :
    lexer.read.2.Sited filename source goal ∧ lexer.read.2.start = lexer.start := by
  by_cases hs : lexer.mode = .start
  · rw [read_of_start hs]
    exact ⟨h, rfl⟩
  by_cases hf : lexer.mode = .finished
  · rw [read_of_finished hf]
    exact ⟨h, rfl⟩
  cases hr : lexer.rest with
  | nil =>
    rw [read_of_rest_eq_nil hr]
    exact ⟨h, rfl⟩
  | cons c rest =>
    rw [read_of_reading hr hs hf]
    refine ⟨⟨h.filename, h.source, ?_, ?_⟩, rfl⟩
    · simp [Position.advanceAll_append, ← h.position]
    · have hg := h.goal
      rw [hr] at hg
      exact hg

/-- A token stops where the next one begins, even if a character is kept back for that. -/
theorem Sited.emit (h : lexer.Sited filename source goal) (kind : Kind) {keepsLast : Bool}
    (hk : keepsLast = true → lexer.pending.head? = some '\r') :
    (lexer.emit kind keepsLast).1 =
        (lexer.emit kind keepsLast).1.piece.token filename source lexer.start ∧
      (lexer.emit kind keepsLast).2.start = (lexer.emit kind keepsLast).1.stop ∧
      (lexer.emit kind keepsLast).2.Sited filename source goal := by
  obtain ⟨hf, hs, hp, hg⟩ := h
  subst hf hs
  cases keepsLast with
  | true =>
    obtain ⟨before, hb⟩ := List.head?_eq_some_iff.mp (hk rfl)
    have hq : lexer.position = (lexer.start.advanceAll before.reverse).advance '\r' := by
      rw [hp, hb]
      simp [Position.advanceAll_append]
    have hr : lexer.position.retreat '\r' = lexer.start.advanceAll before.reverse := by
      rw [hq, Position.retreat_advance _ (by decide)]
    have he : lexer.emit kind true = lexer.cut kind before ['\r'] (lexer.position.retreat '\r') := by
      unfold Lexer.emit
      rw [hb]
    rw [he, hr]
    refine ⟨?_, rfl, rfl, rfl, hq, hg⟩
    simp [cut, Token.piece, Piece.token]
  | false =>
    have he : lexer.emit kind false = lexer.cut kind lexer.pending [] lexer.position := rfl
    rw [he]
    refine ⟨?_, rfl, rfl, rfl, rfl, hg⟩
    simp [cut, Token.piece, Piece.token, hp]

/-- What a round does to the place: a token, if there is one, goes from the old start to the new. -/
theorem Sited.round (h : lexer.Sited filename source goal) (hr : lexer.AtReturn) :
    lexer.round.2.Sited filename source goal ∧
      (lexer.round.1 = none → lexer.round.2.start = lexer.start) ∧
      ∀ token, lexer.round.1 = some token →
        token = token.piece.token filename source lexer.start ∧ lexer.round.2.start = token.stop := by
  obtain ⟨hread, hstart⟩ := h.read
  have hc : lexer.changed.Sited filename source goal :=
    ⟨hread.filename, hread.source, hread.position, hread.goal⟩
  cases he : lexer.change.emits with
  | false =>
    have hround : lexer.round = (none, lexer.changed) := by simp [Lexer.round, he]
    rw [hround]
    exact ⟨hc, fun _ => hstart, fun _ h => (Option.some_ne_none _ h.symm).elim⟩
  | true =>
    have hround : lexer.round =
        (some (lexer.changed.emit lexer.change.kind (keepsReturn lexer.mode lexer.change.next)).1,
          (lexer.changed.emit lexer.change.kind (keepsReturn lexer.mode lexer.change.next)).2) := by
      simp [Lexer.round, he]
    have hk : keepsReturn lexer.mode lexer.change.next = true →
        lexer.changed.pending.head? = some '\r' := by
      intro hk
      apply hr.head_pending
      simp only [keepsReturn, Bool.and_eq_true, beq_iff_eq] at hk
      exact hk.1
    obtain ⟨htoken, hstop, hafter⟩ := hc.emit lexer.change.kind hk
    rw [hround]
    refine ⟨hafter, fun h => (Option.some_ne_none _ h).elim, ?_⟩
    intro token ht
    obtain rfl := Option.some.inj ht
    exact ⟨hstart ▸ htoken, hstop⟩

theorem Sited.next (h : lexer.Sited filename source goal) (hr : lexer.AtReturn) :
    lexer.next.2.Sited filename source goal ∧ lexer.next.2.AtReturn ∧
      lexer.next.1 = lexer.next.1.piece.token filename source lexer.start ∧
      lexer.next.2.start = lexer.next.1.stop := by
  fun_induction Lexer.next lexer with
  | case1 lexer token ht =>
    obtain ⟨hs, -, htoken⟩ := h.round hr
    exact ⟨hs, .round, htoken token ht⟩
  | case2 lexer hn ih =>
    obtain ⟨hs, hstart, -⟩ := h.round hr
    have ih := ih hs .round
    rw [hstart hn] at ih
    exact ih

/-- The end of a text is the token that stands at its goal. -/
theorem Sited.next_of_isEnd (h : lexer.Sited filename source goal) (hr : lexer.AtReturn)
    (hp : lexer.Poised) (he : lexer.next.1.isEnd = true) :
    lexer.next.1 = Piece.ending.token filename source goal := by
  fun_induction Lexer.next lexer with
  | case1 lexer token ht =>
    have hf := hp.mode_of_isEnd ht he
    have hrest : lexer.rest = [] := (hp.ends (by simp [hf])).mp hf
    have hg := h.goal
    rw [hrest] at hg
    rw [hp.round_of_finished hf, h.filename, h.source, show lexer.position = goal from hg] at ht
    exact (Option.some.inj ht).symm
  | case2 lexer hn ih => exact ih (h.round hr).1 .round hp.round he

/-- The tokens of a lexer are its pieces, laid out from where it stands, and then the end. -/
theorem Sited.drain (h : lexer.Sited filename source goal) (hr : lexer.AtReturn)
    (hp : lexer.Poised) :
    lexer.drain.tokens = layout filename source lexer.start (lexer.drain.tokens.map Token.piece) ∧
      lexer.drain.last = Piece.ending.token filename source goal := by
  fun_induction Lexer.drain lexer with
  | case1 lexer step he more ih =>
    obtain ⟨hs, hr, htoken, hstart⟩ := h.next hr
    obtain ⟨htokens, hlast⟩ := ih hs hr hp.next
    refine ⟨?_, hlast⟩
    have hstop : step.1.stop = lexer.start.advanceAll step.1.piece.lexeme :=
      congrArg Token.stop htoken
    rw [hstart, hstop] at htokens
    rw [List.map_cons, layout, ← htokens, ← htoken]
  | case2 lexer step he => exact ⟨rfl, h.next_of_isEnd hr hp (by simpa using he)⟩

theorem drain_eq_layout (text : List Char) (filename : String) (source : Option Nat) :
    (ofChars text filename source).drain.tokens =
        layout filename source .origin (Region.code.slices text) ∧
      (ofChars text filename source).drain.last =
        Piece.ending.token filename source (.ofText text) := by
  have hr : (ofChars text filename source).AtReturn := nofun
  obtain ⟨htokens, hlast⟩ :=
    (sited_ofChars text filename source).drain hr (poised_ofChars text filename source)
  rw [drain_ofChars] at htokens
  exact ⟨htokens, hlast⟩

theorem flatMap_slices (text : List Char) :
    (Region.code.slices text).flatMap Piece.lexeme = text :=
  (slices_eq_iff_tiles.mp rfl).flatMap_lexeme

/-- Every token of a text stands after the pieces before it; past the last piece it is the end. -/
theorem nth_eq (n : Nat) (text : List Char) (filename : String) (source : Option Nat) :
    TokenStream.nth n (ofChars text filename source) =
      ((Region.code.slices text)[n]?.getD .ending).token filename source
        (.ofText (spelling n (Region.code.slices text))) := by
  obtain ⟨htokens, hlast⟩ := drain_eq_layout text filename source
  rw [(yields text filename source).nth, htokens, hlast, getElem?_layout,
    Position.advanceAll_origin]
  cases hn : (Region.code.slices text)[n]? with
  | some piece => rfl
  | none =>
    rw [spelling_of_length_le (List.getElem?_eq_none_iff.mp hn), flatMap_slices]
    rfl

/-- What a sequence of tokens without end has to do with a text that it covers. -/
structure Covers (text : List Char) (tokens : Nat → Token) : Prop where
  /-- The first token begins in the first line and column, before the first byte. -/
  first : (tokens 0).start = ⟨1, 1, 0⟩
  /-- Each other one begins where the one before it stops. -/
  adjoins : ∀ n, (tokens (n + 1)).start = (tokens n).stop
  /-- A lexeme is what the text holds between the two offsets. -/
  lexeme : ∀ n, (tokens n).lexeme.toList =
    Utf8.slice (tokens n).start.offset (tokens n).stop.offset text
  /-- The lexemes before the first end make up the text. -/
  whole : ∃ count, (∀ n, (tokens n).isEnd = true ↔ count ≤ n) ∧
    (List.range count).flatMap (fun n => (tokens n).lexeme.toList) = text
  /-- Places are those that the text before the offset tells. -/
  start : ∀ n, (tokens n).start = .ofText (Utf8.take (tokens n).start.offset text)
  stop : ∀ n, (tokens n).stop = .ofText (Utf8.take (tokens n).stop.offset text)

section

variable (n : Nat) (text : List Char) (filename : String) (source : Option Nat)

theorem nth_start : (TokenStream.nth n (ofChars text filename source)).start =
    .ofText (spelling n (Region.code.slices text)) := by
  rw [nth_eq]
  rfl

-- a comment gives its carriage return back, and the blanks begin on its line
example : (TokenStream.nth 1 (ofChars [';', 'é', '\r', '\n'] "" none)).start = ⟨1, 3, 3⟩ := by
  rw [nth_start]
  decide

theorem nth_stop : (TokenStream.nth n (ofChars text filename source)).stop =
    .ofText (spelling (n + 1) (Region.code.slices text)) := by
  rw [nth_eq, spelling_succ, Position.ofText_append]
  rfl

theorem nth_lexeme : (TokenStream.nth n (ofChars text filename source)).lexeme.toList =
    ((Region.code.slices text)[n]?.getD .ending).lexeme := by
  rw [nth_eq]
  exact String.toList_ofList

theorem isEnd_nth_iff : (TokenStream.nth n (ofChars text filename source)).isEnd = true ↔
    (Region.code.slices text).length ≤ n := by
  rw [(yields text filename source).nth, ← length_drain text filename source,
    ← List.getElem?_eq_none_iff]
  cases hn : (ofChars text filename source).drain.tokens[n]? with
  | none => simp [isEnd_drain_last]
  | some token =>
    have he := isEnd_of_mem_drain _ token (List.mem_of_getElem? hn)
    simp [he]

theorem flatMap_range_lexeme : (List.range n).flatMap (fun i =>
    (TokenStream.nth i (ofChars text filename source)).lexeme.toList) =
      spelling n (Region.code.slices text) := by
  induction n with
  | zero => rfl
  | succ n ih =>
    rw [List.range_succ, List.flatMap_append, ih, List.flatMap_singleton, nth_lexeme, spelling_succ]

/-- What the first pieces spell is what the text holds up to their offset. -/
theorem take_spelling : Utf8.take (Utf8.size (spelling n (Region.code.slices text))) text =
    spelling n (Region.code.slices text) := by
  have hp := spelling_prefix n (Region.code.slices text)
  rw [flatMap_slices] at hp
  obtain ⟨rest, hr⟩ := hp
  conv => enter [1, 2]; rw [← hr]
  exact Utf8.take_append _ _

end

/-- The tokens of a text, its end over and over among them, cover it. -/
theorem tokens_cover (text : List Char) (filename : String) (source : Option Nat) :
    Covers text fun n => TokenStream.nth n (ofChars text filename source) where
  first := nth_start 0 text filename source
  adjoins n := by rw [nth_start, nth_stop]
  lexeme n := by
    have hs : spelling (n + 1) (Region.code.slices text) = _ := spelling_succ n _
    rw [nth_lexeme, nth_start, nth_stop, Utf8.slice]
    change _ = Utf8.drop (Utf8.size (spelling n _)) (Utf8.take (Utf8.size (spelling (n + 1) _)) text)
    rw [take_spelling, hs, Utf8.drop_append]
  whole := by
    refine ⟨(Region.code.slices text).length, fun n => isEnd_nth_iff n text filename source, ?_⟩
    rw [flatMap_range_lexeme, spelling_of_length_le (Nat.le_refl _), flatMap_slices]
  start n := by
    rw [nth_start]
    exact congrArg Position.ofText (take_spelling n text).symm
  stop n := by
    rw [nth_stop]
    exact congrArg Position.ofText (take_spelling (n + 1) text).symm

end Lexer

end BracketBalance
