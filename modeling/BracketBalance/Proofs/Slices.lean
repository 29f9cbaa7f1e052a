import BracketBalance.Proofs.Drain
import BracketBalance.Proofs.Region

namespace BracketBalance

structure Piece where
  kind : Kind
  lexeme : List Char
  deriving DecidableEq, Repr

/-- What a token is apart from its source and its place. -/
def Token.piece (token : Token) : Piece where
  kind := token.kind
  lexeme := token.lexeme.toList

/-- The pieces of what is pending, in reading order, and of what follows. -/
def Mode.slices (mode : Mode) (pending : List Char) : List Char → List Piece
  | [] => []
  | c :: rest =>
    let change := mode.transition (some c) rest.head?
    if change.emits then
      if Lexer.keepsReturn mode change.next then ⟨change.kind, pending⟩ :: change.next.slices [c] rest
      else ⟨change.kind, pending ++ [c]⟩ :: change.next.slices [] rest
    else change.next.slices (pending ++ [c]) rest

def Region.slices (region : Region) (text : List Char) : List Piece :=
  (region.mode text.head?).slices [] text

section

variable {mode : Mode} {c : Char} {pending rest : List Char} {change : Transition}

theorem Mode.slices_of_waits (hc : mode.transition (some c) rest.head? = change)
    (he : change.emits = false) :
    mode.slices pending (c :: rest) = change.next.slices (pending ++ [c]) rest := by
  simp [slices, hc, he]

theorem Mode.slices_of_emits (hc : mode.transition (some c) rest.head? = change)
    (he : change.emits = true) (hk : Lexer.keepsReturn mode change.next = false) :
    mode.slices pending (c :: rest) =
      ⟨change.kind, pending ++ [c]⟩ :: change.next.slices [] rest := by
  simp [slices, hc, he, hk]

theorem Mode.slices_of_keeps (hc : mode.transition (some c) rest.head? = change)
    (he : change.emits = true) (hk : Lexer.keepsReturn mode change.next = true) :
    mode.slices pending (c :: rest) = ⟨change.kind, pending⟩ :: change.next.slices [c] rest := by
  simp [slices, hc, he, hk]

end

/-- Whatever is pending, the pieces that open or close are the delimiters of the text. -/
theorem Region.mode_slices_delimiters (region : Region) (pending text : List Char) :
    (((region.mode text.head?).slices pending text).map Piece.kind).filter Kind.delimits =
      region.delimiters text := by
  induction text generalizing region pending with
  | nil => rfl
  | cons c rest ih =>
    obtain ⟨change, hc⟩ : ∃ change, (region.mode (some c)).transition (some c) rest.head? = change :=
      ⟨_, rfl⟩
    have hn : change.next = (region.after c).mode rest.head? := hc ▸ transition_next region c _
    rw [List.head?_cons, delimiters, transition_delimiter region c rest.head?, hc]
    cases he : change.emits with
    | false =>
      rw [Mode.slices_of_waits hc he, hn, ih]
      rfl
    | true =>
      cases hk : Lexer.keepsReturn (region.mode (some c)) change.next with
      | false =>
        rw [Mode.slices_of_emits hc he hk, hn, List.map_cons, List.filter_cons, ih]
        cases hd : change.kind.delimits <;> simp [Option.filter, hd]
      | true =>
        rw [Mode.slices_of_keeps hc he hk, hn, List.map_cons, List.filter_cons, ih]
        cases hd : change.kind.delimits <;> simp [Option.filter, hd]

theorem Region.slices_delimiters (region : Region) (text : List Char) :
    ((region.slices text).map Piece.kind).filter Kind.delimits = region.delimiters text :=
  region.mode_slices_delimiters [] text

namespace Lexer

variable {lexer : Lexer}

theorem drain_of_none (h : lexer.round.1 = none) : lexer.drain = lexer.round.2.drain := by
  rw [drain, next_of_none h, ← drain]

theorem change_of_reading {c : Char} {rest : List Char} (hr : lexer.rest = c :: rest)
    (hs : lexer.mode ≠ .start) (hf : lexer.mode ≠ .finished) :
    lexer.change = lexer.mode.transition (some c) rest.head? := by
  unfold change
  rw [read_of_reading hr hs hf]

theorem round_pending_of_not_emits {c : Char} {rest : List Char} (hr : lexer.rest = c :: rest)
    (hs : lexer.mode ≠ .start) (hf : lexer.mode ≠ .finished) (he : lexer.change.emits = false) :
    lexer.round.2.pending = c :: lexer.pending := by
  unfold round
  simp only [he, changed, read_of_reading hr hs hf, Bool.false_eq_true, ↓reduceIte]

theorem round_of_emits {c : Char} {rest : List Char} (hr : lexer.rest = c :: rest)
    (hs : lexer.mode ≠ .start) (hf : lexer.mode ≠ .finished) (he : lexer.change.emits = true) :
    ∃ token, lexer.round.1 = some token ∧
      if keepsReturn lexer.mode lexer.change.next then
        token.piece = ⟨lexer.change.kind, lexer.pending.reverse⟩ ∧ lexer.round.2.pending = [c]
      else
        token.piece = ⟨lexer.change.kind, lexer.pending.reverse ++ [c]⟩ ∧
          lexer.round.2.pending = [] := by
  unfold round
  simp only [he, changed, read_of_reading hr hs hf, ↓reduceIte]
  refine ⟨_, rfl, ?_⟩
  split
  · next hk =>
    simp [hk, emit, cut, Token.piece]
  · next hk =>
    simp [hk, emit, cut, Token.piece]

/-- A poised lexer that has begun drains to the pieces of what it holds. -/
theorem Poised.drain_pieces (h : lexer.Poised) (hs : lexer.mode ≠ .start) :
    lexer.drain.tokens.map Token.piece = lexer.mode.slices lexer.pending.reverse lexer.rest := by
  induction hr : lexer.rest generalizing lexer with
  | nil =>
    have hf : lexer.mode = .finished := (h.ends hs).mpr hr
    have hn := next_of_some (congrArg Prod.fst (h.round_of_finished hf))
    rw [drain_of_isEnd (by rw [hn]; rfl)]
    rfl
  | cons c rest ih =>
    have hf : lexer.mode ≠ .finished := by
      intro hf
      simp [(h.ends hs).mp hf] at hr
    have hn := lexer.change_next_ne_start
    have hrest : lexer.round.2.rest = rest := by rw [round_rest, read_of_reading hr hs hf]
    have ih := @ih lexer.round.2 h.round (round_mode lexer ▸ hn) hrest
    rw [round_mode] at ih
    simp only [Mode.slices, ← change_of_reading hr hs hf]
    cases he : lexer.change.emits with
    | false =>
      rw [drain_of_none (round_eq_none_iff.mpr he), ih, round_pending_of_not_emits hr hs hf he]
      simp
    | true =>
      obtain ⟨token, ht, hk⟩ := round_of_emits hr hs hf he
      have hend : token.isEnd = false := by
        cases hend : token.isEnd with
        | false => rfl
        | true => exact absurd (h.mode_of_isEnd ht hend) hf
      have hnext := next_of_some ht
      rw [drain_of_token (by rw [hnext]; exact hend), hnext]
      simp only [List.map_cons, ih, ↓reduceIte]
      by_cases hr : keepsReturn lexer.mode lexer.change.next = true
      · simp only [hr, ↓reduceIte] at hk ⊢
        rw [hk.1, hk.2]
        rfl
      · simp only [hr] at hk ⊢
        rw [hk.1, hk.2]
        rfl

/-- A lexer on a text gives the pieces of the text as code. -/
theorem drain_ofChars (text : List Char) (filename : String) (source : Option Nat) :
    (ofChars text filename source).drain.tokens.map Token.piece = Region.code.slices text := by
  have hp := (poised_ofChars text filename source).round
  have hn : (ofChars text filename source).round.1 = none := rfl
  rw [drain_of_none hn, hp.drain_pieces (round_mode_ne_start _)]
  unfold Region.slices
  rw [Region.mode_code]
  rfl

theorem length_drain (text : List Char) (filename : String) (source : Option Nat) :
    (ofChars text filename source).drain.tokens.length = (Region.code.slices text).length := by
  rw [← drain_ofChars text filename source, List.length_map]

end Lexer

end BracketBalance
