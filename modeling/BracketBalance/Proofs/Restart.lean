import BracketBalance.Proofs.Beginnings

namespace BracketBalance

/-- Where a place in a part of a text stands in the whole, if the part begins at a base. -/
def Position.embed (base place : Position) : Position where
  line := base.line + place.line - 1
  column := if 1 < place.line then place.column else base.column + place.column - 1
  offset := base.offset + place.offset

namespace Position

theorem embed_origin (base : Position) : base.embed origin = base := rfl

theorem embed_advance (base : Position) {place : Position} (hl : 1 ≤ place.line)
    (hc : 1 ≤ place.column) (c : Char) :
    base.embed (place.advance c) = (base.embed place).advance c := by
  by_cases hn : c = '\n'
  · subst hn
    have hline : 1 < place.line + 1 := Nat.lt_succ_of_le hl
    simp only [advance, embed, ↓reduceIte, hline, mk.injEq, true_and]
    omega
  · simp only [advance, embed, hn, ↓reduceIte, mk.injEq, true_and]
    split <;> omega

theorem one_le_advance (place : Position) (hl : 1 ≤ place.line) (c : Char) :
    1 ≤ (place.advance c).line ∧ 1 ≤ (place.advance c).column := by
  unfold advance
  split <;> simp only <;> omega

theorem embed_advanceAll (base : Position) {place : Position} (hl : 1 ≤ place.line)
    (hc : 1 ≤ place.column) (text : List Char) :
    base.embed (place.advanceAll text) = (base.embed place).advanceAll text := by
  induction text generalizing place with
  | nil => rfl
  | cons c text ih =>
    obtain ⟨hline, hcolumn⟩ := place.one_le_advance hl c
    rw [advanceAll_cons, advanceAll_cons, ih hline hcolumn, embed_advance base hl hc]

/-- The place after two texts is that after the second, embedded after the first. -/
theorem ofText_append_embed (a b : List Char) : ofText (a ++ b) = (ofText a).embed (ofText b) := by
  rw [ofText_append, ← advanceAll_origin b, embed_advanceAll _ (by decide) (by decide), embed_origin]

end Position

theorem WellFormed.drop {pieces : List Piece} (h : WellFormed pieces) (n : Nat) :
    WellFormedAfter (pieces.take n) (pieces.drop n) := by
  intro earlier piece after hp
  apply h
  rw [List.append_assoc, ← hp, List.take_append_drop]

def remainder (n : Nat) (pieces : List Piece) : List Char :=
  (pieces.drop n).flatMap Piece.lexeme

theorem spelling_append_remainder (n : Nat) (pieces : List Piece) :
    spelling n pieces ++ remainder n pieces = pieces.flatMap Piece.lexeme := by
  rw [spelling, remainder, ← List.flatMap_append, List.take_append_drop]

theorem spelling_add (n m : Nat) (pieces : List Piece) :
    spelling (n + m) pieces = spelling n pieces ++ spelling m (pieces.drop n) := by
  rw [spelling, List.take_add, List.flatMap_append]
  rfl

/-- Outside strings, what is left of a text is cut into the pieces that are left. -/
theorem slices_remainder {n : Nat} {text : List Char}
    (outside : Outside ((Region.code.slices text).take n)) :
    Region.code.slices (remainder n (Region.code.slices text)) =
      (Region.code.slices text).drop n := by
  have ht : Tiles text (Region.code.slices text) := slices_eq_iff_tiles.mp rfl
  obtain ⟨hw, -⟩ := tiles_iff_wellFormed.mp ht
  exact ((hw.drop n).tiles outside).slices

namespace Lexer

open TokenStream (nth firsts)

theorem nth_kind (n : Nat) (text : List Char) (filename : String) (source : Option Nat) :
    (nth n (ofChars text filename source)).kind =
      ((Region.code.slices text)[n]?.getD .ending).kind := by
  rw [nth_eq]
  rfl

/-- The quotation marks among the first tokens are those among the first pieces. -/
theorem countP_quote_firsts (n : Nat) (text : List Char) (filename : String)
    (source : Option Nat) :
    (firsts n (ofChars text filename source)).countP (·.kind == .quote) =
      ((Region.code.slices text).take n).countP (·.kind == .quote) := by
  induction n with
  | zero => rfl
  | succ n ih =>
    rw [TokenStream.firsts_succ, List.countP_append, ih, List.take_add_one, List.countP_append,
      List.countP_singleton, nth_kind]
    cases (Region.code.slices text)[n]? with
    | none => rfl
    | some piece => rw [Option.toList_some, List.countP_singleton, Option.getD_some]

/-- After so many tokens that all strings are closed, a new lexer on what is left of the text gives for
ever the tokens that the old one goes on to give, each at the place that embeds its own. -/
theorem restarts (n : Nat) (text : List Char) (filename : String) (source : Option Nat)
    (closed : (firsts n (ofChars text filename source)).countP (·.kind == .quote) % 2 = 0) :
    let base := (nth n (ofChars text filename source)).start
    ∃ before rest, text = before ++ rest ∧ Utf8.size before = base.offset ∧
      ∀ (name : String) (mark : Option Nat) (m : Nat),
        let token := nth (n + m) (ofChars text filename source)
        let anew := nth m (ofChars rest name mark)
        token.kind = anew.kind ∧ token.lexeme = anew.lexeme ∧
          token.start = base.embed anew.start ∧ token.stop = base.embed anew.stop := by
  intro base
  rw [countP_quote_firsts] at closed
  have hs := slices_remainder closed
  have hbase : base = .ofText (spelling n (Region.code.slices text)) := nth_start n text filename source
  have hplace : ∀ m, Position.ofText (spelling (n + m) (Region.code.slices text)) =
      base.embed (.ofText (spelling m ((Region.code.slices text).drop n))) := by
    intro m
    rw [spelling_add, Position.ofText_append_embed, hbase]
  refine ⟨spelling n (Region.code.slices text), remainder n (Region.code.slices text), ?_, ?_, ?_⟩
  · rw [spelling_append_remainder, flatMap_slices]
  · rw [hbase]
    rfl
  · intro name mark m token anew
    refine ⟨?_, ?_, ?_, ?_⟩
    · simp only [token, anew]
      rw [nth_kind, nth_kind, hs, List.getElem?_drop]
    · simp only [token, anew]
      rw [← String.toList_inj, nth_lexeme, nth_lexeme, hs, List.getElem?_drop]
    · simp only [token, anew]
      rw [nth_start, nth_start, hs, hplace]
    · simp only [token, anew]
      rw [nth_stop, nth_stop, hs, Nat.add_assoc, hplace]

/-- Between a comment and the carriage return that it has given back, after a string. -/
theorem restarts_at_return :
    let text := ['"', 'é', '"', ';', '\r', '\n', ')']
    (firsts 4 (ofChars text "" none)).countP (·.kind == .quote) % 2 = 0 ∧
      nth 4 (ofChars text "" none) = ⟨.whitespace, "\r\n", none, "", ⟨1, 5, 5⟩, ⟨2, 1, 7⟩⟩ ∧
      ∃ before rest, text = before ++ rest ∧ Utf8.size before = 5 ∧
        ∀ m, (nth (4 + m) (ofChars text "" none)).start =
          Position.embed ⟨1, 5, 5⟩ (nth m (ofChars rest "" none)).start := by
  intro text
  have closed : (firsts 4 (ofChars text "" none)).countP (·.kind == .quote) % 2 = 0 := by
    decide +kernel
  have hbase : nth 4 (ofChars text "" none) =
      ⟨.whitespace, "\r\n", none, "", ⟨1, 5, 5⟩, ⟨2, 1, 7⟩⟩ := by decide +kernel
  obtain ⟨before, rest, htext, hsize, htokens⟩ := restarts 4 text "" none closed
  rw [hbase] at hsize htokens
  exact ⟨closed, hbase, before, rest, htext, hsize, fun m => (htokens "" none m).2.2.1⟩

end Lexer

end BracketBalance
