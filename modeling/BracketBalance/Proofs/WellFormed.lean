import BracketBalance.Proofs.Tiling

namespace BracketBalance

def special : List Char :=
  ['(', ')', '[', ']', '{', '}', '"', ';', ' ', '\t', '\r', '\n']

/-- Every quotation mark so far that opens a string has another that closes it. -/
def Outside (before : List Piece) : Prop :=
  before.countP (·.kind == .quote) % 2 = 0

/-- What a piece says, and what stands around it. -/
def Placed (before : List Piece) : Piece → List Piece → Prop
  | ⟨.endOfText, _⟩, _ => False
  | ⟨.openParen, lexeme⟩, _ => lexeme = ['(']
  | ⟨.closeParen, lexeme⟩, _ => lexeme = [')']
  | ⟨.openBracket, lexeme⟩, _ => lexeme = ['[']
  | ⟨.closeBracket, lexeme⟩, _ => lexeme = [']']
  | ⟨.openBrace, lexeme⟩, _ => lexeme = ['{']
  | ⟨.closeBrace, lexeme⟩, _ => lexeme = ['}']
  | ⟨.symbol, lexeme⟩, after =>
    lexeme ≠ [] ∧ (∀ c ∈ lexeme, c ∉ special) ∧ ∀ next ∈ after.head?, next.kind ≠ .symbol
  | ⟨.whitespace, lexeme⟩, after =>
    lexeme ≠ [] ∧ (∀ c ∈ lexeme, c ∈ [' ', '\t', '\r', '\n']) ∧
      ∀ next ∈ after.head?, next.kind ≠ .whitespace
  | ⟨.comment, lexeme⟩, after =>
    lexeme.head? = some ';' ∧ '\n' ∉ lexeme ∧ ∀ next ∈ after.head?, next.kind = .whitespace ∧
      (['\r', '\n'] <+: next.lexeme ∨ ['\n'] <+: next.lexeme ∧ lexeme.getLast? ≠ some '\r')
  | ⟨.quote, lexeme⟩, after =>
    lexeme = ['"'] ∧
      (Outside before → ∀ next ∈ after.head?, next.kind = .stringData ∨ next.kind = .quote)
  | ⟨.stringData, lexeme⟩, after =>
    lexeme ≠ [] ∧
      (∃ earlier opening, before = earlier ++ [opening] ∧ opening.kind = .quote ∧ Outside earlier) ∧
      -- a backslash takes the character after it, and lacks one only at the end of everything
      (StringBody lexeme ∨ after = [] ∧ ∃ body, lexeme = body ++ ['\\'] ∧ StringBody body) ∧
      ∀ next ∈ after.head?, next.kind = .quote

def WellFormed (pieces : List Piece) : Prop :=
  ∀ before piece after, pieces = before ++ piece :: after → Placed before piece after

def WellFormedAfter (before pieces : List Piece) : Prop :=
  ∀ earlier piece after, pieces = earlier ++ piece :: after →
    Placed (before ++ earlier) piece after

theorem wellFormedAfter_nil (before : List Piece) : WellFormedAfter before [] := by
  intro earlier piece after h
  simp at h

theorem wellFormedAfter_cons {before pieces : List Piece} {piece : Piece} :
    WellFormedAfter before (piece :: pieces) ↔
      Placed before piece pieces ∧ WellFormedAfter (before ++ [piece]) pieces := by
  constructor
  · intro h
    refine ⟨by simpa using h [] piece pieces rfl, ?_⟩
    intro earlier next after hn
    simpa using h (piece :: earlier) next after (by rw [hn]; rfl)
  · rintro ⟨hp, hs⟩ earlier next after hn
    cases earlier with
    | nil =>
      obtain ⟨rfl, rfl⟩ := List.cons.inj hn
      simpa using hp
    | cons first earlier =>
      obtain ⟨rfl, hrest⟩ := List.cons.inj hn
      simpa using hs earlier next after hrest

theorem wellFormed_iff {pieces : List Piece} : WellFormed pieces ↔ WellFormedAfter [] pieces :=
  Iff.rfl

theorem outside_append_iff {before : List Piece} {piece : Piece} :
    Outside (before ++ [piece]) ↔ (Outside before ↔ piece.kind ≠ .quote) := by
  simp only [Outside, List.countP_append, List.countP_singleton]
  by_cases hk : piece.kind = .quote
  · simp only [hk, beq_self_eq_true, if_true, ne_eq, not_true_eq_false, iff_false]
    omega
  · simp [hk]

theorem Outside.append {before : List Piece} {piece : Piece} (h : Outside before)
    (hk : piece.kind ≠ .quote) : Outside (before ++ [piece]) :=
  outside_append_iff.mpr (iff_of_true h hk)

theorem Outside.opening {before : List Piece} (h : Outside before) :
    ¬ Outside (before ++ [.quote]) := by
  intro hq
  exact (outside_append_iff.mp hq).mp h rfl

theorem Outside.data {before : List Piece} {lexeme : List Char} (h : Outside before) :
    ¬ Outside (before ++ [.quote] ++ [⟨.stringData, lexeme⟩]) := by
  intro hd
  exact h.opening ((outside_append_iff.mp hd).mpr (by simp))

theorem outside_closing {before : List Piece} (h : ¬ Outside before) :
    Outside (before ++ [.quote]) :=
  outside_append_iff.mpr (iff_of_false h (fun hk => hk rfl))

theorem startingWith_eq_symbol_iff {c : Char} :
    Kind.startingWith (some c) = .symbol ↔ c ∉ special := by
  unfold Kind.startingWith
  split <;> simp_all [special]

theorem startingWith_eq_whitespace_iff {c : Char} :
    Kind.startingWith (some c) = .whitespace ↔ c ∈ [' ', '\t', '\r', '\n'] := by
  unfold Kind.startingWith
  split <;> simp_all

def headKind (pieces : List Piece) : Kind :=
  (pieces.head?.map Piece.kind).getD .endOfText

theorem headKind_ne_iff {pieces : List Piece} {kind : Kind} (hk : kind ≠ .endOfText) :
    headKind pieces ≠ kind ↔ ∀ next ∈ pieces.head?, next.kind ≠ kind := by
  cases pieces with
  | nil => simp [headKind, hk.symm]
  | cons piece pieces => simp [headKind]

theorem Tiles.flatMap_lexeme {text : List Char} {pieces : List Piece} (h : Tiles text pieces) :
    pieces.flatMap Piece.lexeme = text := by
  induction h <;> simp_all [Piece.quote]

theorem Tiles.lexeme_ne_nil {text : List Char} {pieces : List Piece} (h : Tiles text pieces) :
    ∀ piece ∈ pieces, piece.lexeme ≠ [] := by
  induction h with
  | nil => simp
  | bracket _ _ ih | comment _ _ _ ih => simpa using ih
  | run _ lexeme_ne _ _ _ ih => exact List.forall_mem_cons.mpr ⟨lexeme_ne, ih⟩
  | empty _ ih => simpa [Piece.quote] using ih
  | string lexeme_ne _ _ ih => simpa [Piece.quote, lexeme_ne] using ih
  | opened => simp [Piece.quote]
  | unfinished lexeme_ne _ => simp [Piece.quote, lexeme_ne]

theorem Tiles.startingWith_head {text : List Char} {pieces : List Piece} (h : Tiles text pieces) :
    Kind.startingWith text.head? = headKind pieces := by
  cases h with
  | @run kind lexeme rest pieces kind_eq lexeme_ne alike stops more =>
    obtain ⟨c, lexeme, rfl⟩ := List.exists_cons_of_ne_nil lexeme_ne
    exact alike c List.mem_cons_self
  | _ => rfl

/-- Blanks at the beginning of a text belong to one piece. -/
theorem Tiles.exists_whitespace {text blanks : List Char} {pieces : List Piece}
    (h : Tiles text pieces) (hne : blanks ≠ [])
    (hw : ∀ c ∈ blanks, Kind.startingWith (some c) = .whitespace) (hp : blanks <+: text) :
    ∃ lexeme more, pieces = ⟨.whitespace, lexeme⟩ :: more ∧ blanks <+: lexeme := by
  have hk : headKind pieces = .whitespace := by
    rw [← h.startingWith_head]
    obtain ⟨c, blanks, rfl⟩ := List.exists_cons_of_ne_nil hne
    obtain ⟨rest, rfl⟩ := hp
    exact hw c List.mem_cons_self
  cases h with
  | @run kind lexeme rest pieces kind_eq lexeme_ne alike stops more =>
    obtain rfl : kind = .whitespace := hk
    refine ⟨lexeme, pieces, rfl, ?_⟩
    rcases List.prefix_or_prefix_of_prefix hp (List.prefix_append lexeme rest) with hl | ⟨beyond, rfl⟩
    · exact hl
    · cases beyond with
      | nil => simp
      | cons d beyond =>
        obtain ⟨more, rfl⟩ := (List.prefix_append_right_inj lexeme).mp hp
        exact absurd (hw d (by simp)) stops
  | @bracket c _ _ single =>
    obtain hk : Kind.startingWith (some c) = .whitespace := hk
    simp [hk, Mode.entering] at single
  | _ => cases hk

/-- Blanks begin where a comment breaks off, unless the text ends there. -/
theorem Tiles.breaks {line rest : List Char} {pieces : List Piece} (h : Tiles rest pieces)
    (hb : BreaksAfter line rest) :
    ∀ next ∈ pieces.head?, next.kind = .whitespace ∧
      (['\r', '\n'] <+: next.lexeme ∨ ['\n'] <+: next.lexeme ∧ line.getLast? ≠ some '\r') := by
  rcases hb with rfl | hp | ⟨hp, hr⟩
  · obtain rfl : [] = pieces := h.slices
    simp
  · obtain ⟨lexeme, more, rfl, hl⟩ := h.exists_whitespace (by simp) (by simp [Kind.startingWith]) hp
    simp [hl]
  · obtain ⟨lexeme, more, rfl, hl⟩ := h.exists_whitespace (by simp) (by simp [Kind.startingWith]) hp
    simp [hl, hr]

theorem entering_eq_bracket_iff {c : Char} :
    Mode.entering (.startingWith (some c)) = .bracket ↔ c ∈ ['(', ')', '[', ']', '{', '}'] := by
  unfold Kind.startingWith
  split <;> simp_all [Mode.entering]

/-- The pieces that tile a text are placed, if they stand outside strings. -/
theorem Tiles.wellFormedAfter {text : List Char} {pieces : List Piece} (h : Tiles text pieces)
    {before : List Piece} (ho : Outside before) : WellFormedAfter before pieces := by
  induction h generalizing before with
  | nil => exact wellFormedAfter_nil before
  | @bracket c rest pieces single _ ih =>
    have hc := entering_eq_bracket_iff.mp single
    simp only [List.mem_cons, List.not_mem_nil, or_false] at hc
    have hq : Kind.startingWith (some c) ≠ .quote := by
      intro hq
      simp [hq, Mode.entering] at single
    refine wellFormedAfter_cons.mpr ⟨?_, ih (ho.append hq)⟩
    rcases hc with rfl | rfl | rfl | rfl | rfl | rfl <;> rfl
  | @run kind lexeme rest pieces kind_eq lexeme_ne alike stops more ih =>
    rw [more.startingWith_head] at stops
    rcases kind_eq with rfl | rfl
    · refine wellFormedAfter_cons.mpr ⟨?_, ih (ho.append (by simp))⟩
      exact ⟨lexeme_ne, fun c hc => startingWith_eq_symbol_iff.mp (alike c hc),
        (headKind_ne_iff (by simp)).mp stops⟩
    · refine wellFormedAfter_cons.mpr ⟨?_, ih (ho.append (by simp))⟩
      exact ⟨lexeme_ne, fun c hc => startingWith_eq_whitespace_iff.mp (alike c hc),
        (headKind_ne_iff (by simp)).mp stops⟩
  | comment unbroken breaks more ih =>
    refine wellFormedAfter_cons.mpr ⟨?_, ih (ho.append (by simp))⟩
    exact ⟨rfl, by simp [unbroken], more.breaks breaks⟩
  | empty _ ih =>
    refine wellFormedAfter_cons.mpr ⟨⟨rfl, fun _ => by simp [Piece.quote]⟩, ?_⟩
    refine wellFormedAfter_cons.mpr ⟨⟨rfl, fun h => absurd h ho.opening⟩, ?_⟩
    exact ih (outside_closing ho.opening)
  | @string lexeme rest pieces lexeme_ne body _ ih =>
    refine wellFormedAfter_cons.mpr ⟨⟨rfl, fun _ => by simp⟩, ?_⟩
    refine wellFormedAfter_cons.mpr
      ⟨⟨lexeme_ne, ⟨before, .quote, rfl, rfl, ho⟩, .inl body, by simp [Piece.quote]⟩, ?_⟩
    refine wellFormedAfter_cons.mpr ⟨⟨rfl, fun h => absurd h ho.data⟩, ?_⟩
    exact ih (outside_closing ho.data)
  | opened => exact wellFormedAfter_cons.mpr ⟨⟨rfl, by simp⟩, wellFormedAfter_nil _⟩
  | @unfinished lexeme lexeme_ne data =>
    refine wellFormedAfter_cons.mpr ⟨⟨rfl, fun _ => by simp⟩, ?_⟩
    refine wellFormedAfter_cons.mpr ⟨⟨lexeme_ne, ⟨before, .quote, rfl, rfl, ho⟩, ?_, by simp⟩,
      wellFormedAfter_nil _⟩
    rcases data with body | body
    · exact .inl body
    · exact .inr ⟨rfl, body⟩

/-- The first of some placed pieces begins as its kind does, unless they stand in a string. -/
theorem WellFormedAfter.startingWith_head {before pieces : List Piece}
    (h : WellFormedAfter before pieces) (hd : headKind pieces ≠ .stringData) :
    Kind.startingWith (pieces.flatMap Piece.lexeme).head? = headKind pieces := by
  cases pieces with
  | nil => rfl
  | cons piece pieces =>
    obtain ⟨hp, -⟩ := wellFormedAfter_cons.mp h
    obtain ⟨kind, lexeme⟩ := piece
    cases kind with
    | endOfText => exact hp.elim
    | symbol =>
      obtain ⟨hne, hc, -⟩ := hp
      obtain ⟨c, lexeme, rfl⟩ := List.exists_cons_of_ne_nil hne
      exact startingWith_eq_symbol_iff.mpr (hc c List.mem_cons_self)
    | whitespace =>
      obtain ⟨hne, hc, -⟩ := hp
      obtain ⟨c, lexeme, rfl⟩ := List.exists_cons_of_ne_nil hne
      exact startingWith_eq_whitespace_iff.mpr (hc c List.mem_cons_self)
    | comment =>
      obtain ⟨line, rfl⟩ := List.head?_eq_some_iff.mp hp.1
      rfl
    | quote =>
      obtain rfl : lexeme = ['"'] := hp.1
      rfl
    | stringData => exact absurd rfl hd
    | openParen | closeParen | openBracket | closeBracket | openBrace | closeBrace =>
      obtain rfl := show lexeme = _ from hp
      rfl

theorem WellFormedAfter.headKind_ne_stringData {before pieces : List Piece} {piece : Piece}
    (h : WellFormedAfter (before ++ [piece]) pieces) (hk : piece.kind ≠ .quote) :
    headKind pieces ≠ .stringData := by
  cases pieces with
  | nil => simp [headKind]
  | cons next pieces =>
    obtain ⟨hp, -⟩ := wellFormedAfter_cons.mp h
    obtain ⟨kind, lexeme⟩ := next
    rintro hn
    obtain rfl : kind = .stringData := hn
    obtain ⟨-, ⟨earlier, opening, he, ho, -⟩, -⟩ := hp
    obtain rfl : piece = opening := by simpa using congrArg List.getLast? he
    exact hk ho

theorem WellFormedAfter.stops {before pieces : List Piece} {kind : Kind} {lexeme : List Char}
    (h : WellFormedAfter (before ++ [⟨kind, lexeme⟩]) pieces)
    (hk : kind = .symbol ∨ kind = .whitespace) (hn : ∀ next ∈ pieces.head?, next.kind ≠ kind) :
    Kind.startingWith (pieces.flatMap Piece.lexeme).head? ≠ kind := by
  have hq : kind ≠ .quote ∧ kind ≠ .endOfText := by
    rcases hk with rfl | rfl <;> decide
  rw [h.startingWith_head (h.headKind_ne_stringData hq.1)]
  exact (headKind_ne_iff hq.2).mpr hn

theorem WellFormedAfter.breaks {pieces : List Piece} {line : List Char}
    (hn : ∀ next ∈ pieces.head?, next.kind = .whitespace ∧
      (['\r', '\n'] <+: next.lexeme ∨ ['\n'] <+: next.lexeme ∧ line.getLast? ≠ some '\r')) :
    BreaksAfter line (pieces.flatMap Piece.lexeme) := by
  cases pieces with
  | nil => exact .inl rfl
  | cons next pieces =>
    obtain ⟨-, hb | ⟨hb, hr⟩⟩ := hn next rfl
    · exact .inr (.inl (hb.trans (List.prefix_append _ _)))
    · exact .inr (.inr ⟨hb.trans (List.prefix_append _ _), hr⟩)

/-- Placed pieces outside strings tile their text. -/
theorem WellFormedAfter.tiles {before pieces : List Piece} (h : WellFormedAfter before pieces)
    (ho : Outside before) : Tiles (pieces.flatMap Piece.lexeme) pieces := by
  match pieces with
  | [] => exact .nil
  | ⟨kind, lexeme⟩ :: pieces =>
    obtain ⟨hp, hs⟩ := wellFormedAfter_cons.mp h
    rw [List.flatMap_cons]
    cases kind with
    | endOfText => exact hp.elim
    | symbol =>
      obtain ⟨hne, hc, hn⟩ := hp
      exact .run (.inl rfl) hne (fun c hm => startingWith_eq_symbol_iff.mpr (hc c hm))
        (hs.stops (.inl rfl) hn) (hs.tiles (ho.append (by simp)))
    | whitespace =>
      obtain ⟨hne, hc, hn⟩ := hp
      exact .run (.inr rfl) hne (fun c hm => startingWith_eq_whitespace_iff.mpr (hc c hm))
        (hs.stops (.inr rfl) hn) (hs.tiles (ho.append (by simp)))
    | comment =>
      obtain ⟨hh, hl, hn⟩ := hp
      obtain ⟨line, rfl⟩ := List.head?_eq_some_iff.mp hh
      exact .comment (List.not_mem_of_not_mem_cons hl) (WellFormedAfter.breaks hn)
        (hs.tiles (ho.append (by simp)))
    | stringData =>
      obtain ⟨-, ⟨earlier, opening, rfl, hk, he⟩, -⟩ := hp
      exact absurd hk ((outside_append_iff.mp ho).mp he)
    | quote =>
      obtain ⟨rfl, hn⟩ := hp
      match pieces with
      | [] => exact .opened
      | ⟨kind, lexeme⟩ :: pieces =>
        obtain ⟨hp, hs⟩ := wellFormedAfter_cons.mp hs
        obtain rfl | rfl : kind = .stringData ∨ kind = .quote := hn ho _ rfl
        · obtain ⟨hne, -, hb, hn⟩ := hp
          match pieces with
          | [] =>
            rw [List.flatMap_cons, List.flatMap_nil, List.append_nil]
            exact .unfinished hne (hb.imp_right And.right)
          | ⟨kind, mark⟩ :: pieces =>
            obtain ⟨hp, hs⟩ := wellFormedAfter_cons.mp hs
            obtain rfl : kind = .quote := hn _ rfl
            obtain rfl : mark = ['"'] := hp.1
            rcases hb with hb | ⟨h, -⟩
            · exact .string hne hb (hs.tiles (outside_closing ho.data))
            · cases h
        · obtain rfl : lexeme = ['"'] := hp.1
          exact .empty (hs.tiles (outside_closing ho.opening))
    | openParen | closeParen | openBracket | closeBracket | openBrace | closeBrace =>
      obtain rfl := show lexeme = _ from hp
      exact .bracket rfl (hs.tiles (ho.append (by simp)))

theorem tiles_iff_wellFormed {text : List Char} {pieces : List Piece} :
    Tiles text pieces ↔ WellFormed pieces ∧ pieces.flatMap Piece.lexeme = text := by
  have ho : Outside [] := rfl
  constructor
  · intro h
    exact ⟨h.wellFormedAfter ho, h.flatMap_lexeme⟩
  · rintro ⟨h, rfl⟩
    exact (wellFormed_iff.mp h).tiles ho

/-- What a lexer gives for a text: the well formed list of pieces that spell it, of which there is
one. -/
theorem Lexer.pieces_iff_wellFormed (text : List Char) (filename : String) (source : Option Nat)
    (pieces : List Piece) :
    (Lexer.ofChars text filename source).drain.tokens.map Token.piece = pieces ↔
      WellFormed pieces ∧ pieces.flatMap Piece.lexeme = text := by
  rw [Lexer.drain_ofChars, slices_eq_iff_tiles, tiles_iff_wellFormed]

end BracketBalance
