import BracketBalance.Proofs.Unmatched

namespace BracketBalance

theorem Placed.of_append {before after more : List Piece} {piece : Piece}
    (h : Placed before piece (after ++ more)) : Placed before piece after := by
  have hn : ∀ next ∈ after.head?, next ∈ (after ++ more).head? := by
    intro next hm
    rw [List.head?_append, hm]
    rfl
  obtain ⟨kind, lexeme⟩ := piece
  cases kind with
  | endOfText => exact h
  | openParen | closeParen | openBracket | closeBracket | openBrace | closeBrace => exact h
  | symbol | whitespace => exact ⟨h.1, h.2.1, fun next hm => h.2.2 next (hn next hm)⟩
  | comment => exact ⟨h.1, h.2.1, fun next hm => h.2.2 next (hn next hm)⟩
  | quote => exact ⟨h.1, fun ho next hm => h.2 ho next (hn next hm)⟩
  | stringData =>
    obtain ⟨hne, hbefore, hbody, hnext⟩ := h
    refine ⟨hne, hbefore, ?_, fun next hm => hnext next (hn next hm)⟩
    exact hbody.imp_right fun hb => ⟨(List.append_eq_nil_iff.mp hb.1).1, hb.2⟩

theorem WellFormed.take {pieces : List Piece} (h : WellFormed pieces) (n : Nat) :
    WellFormed (pieces.take n) := by
  intro before piece after hp
  have hs : pieces = before ++ piece :: (after ++ pieces.drop n) := by
    rw [← List.cons_append, ← List.append_assoc, ← hp, List.take_append_drop]
  exact (h before piece _ hs).of_append

/-- What the first pieces of a text spell is cut into just those. -/
theorem slices_spelling (n : Nat) (text : List Char) :
    Region.code.slices (spelling n (Region.code.slices text)) = (Region.code.slices text).take n := by
  have ht : Tiles text (Region.code.slices text) := slices_eq_iff_tiles.mp rfl
  rw [slices_eq_iff_tiles, tiles_iff_wellFormed]
  exact ⟨(tiles_iff_wellFormed.mp ht).1.take n, rfl⟩

theorem layout_take (filename : String) (source : Option Nat) (n : Nat) (start : Position)
    (pieces : List Piece) :
    layout filename source start (pieces.take n) = (layout filename source start pieces).take n := by
  induction pieces generalizing n start with
  | nil => simp [layout]
  | cons piece pieces ih =>
    cases n with
    | zero => rfl
    | succ n => rw [List.take_succ_cons, layout, layout, List.take_succ_cons, ih]

/-- The first tokens of a text are the tokens of what they spell. -/
theorem Lexer.drain_spelling (n : Nat) (text : List Char) (filename : String)
    (source : Option Nat) :
    (ofChars (spelling n (Region.code.slices text)) filename source).drain.tokens =
      (ofChars text filename source).drain.tokens.take n := by
  rw [(drain_eq_layout _ filename source).1, (drain_eq_layout text filename source).1,
    slices_spelling, layout_take]

namespace TokenStream

variable {σ : Type} [TokenStream σ] {stream : σ} {rules : Rules} {tokens : List Token} {last : Token}

theorem Yields.firsts_eq_take (h : Yields stream rules tokens last) {n : Nat}
    (hn : n ≤ tokens.length) : TokenStream.firsts n stream = tokens.take n := by
  induction n with
  | zero => rfl
  | succ n ih =>
    rw [firsts_succ, ih (Nat.le_of_succ_le hn), h.nth, List.getElem?_eq_getElem hn,
      Option.getD_some, List.take_append_getElem]

/-- Before an end has been read, no more tokens have been than are held. -/
theorem Yields.le_length (h : Yields stream rules tokens last) (hl : rules.ends last.kind = true)
    {n : Nat} (hn : ∀ token ∈ TokenStream.firsts n stream, rules.ends token.kind = false) :
    n ≤ tokens.length := by
  by_contra hlt
  have hm := hn _ (mem_firsts_iff.mpr ⟨_, Nat.lt_of_not_le hlt, rfl⟩)
  rw [h.nth, List.getElem?_eq_none (Nat.le_refl _), Option.getD_none, hl] at hm
  cases hm

end TokenStream

namespace Checker

open TokenStream

variable {σ : Type} [TokenStream σ] {stream : σ} {rules : Rules} {tokens : List Token} {last : Token}

/-- What waits after so many turns is what the tokens read leave over. -/
theorem waiting_turns (h : Yields stream rules tokens last) (waiting : List Token) (n : Nat) :
    (turns n (⟨waiting, stream⟩ : Checker σ)).waiting = rules.leftover waiting (firsts n stream) := by
  induction n with
  | zero => rfl
  | succ n ih =>
    have hv := verdict_turns h waiting n
    rw [turns_add, turns, turns, turn, hv, ih, firsts_succ, Rules.leftover_append]
    rfl

end Checker

end BracketBalance
