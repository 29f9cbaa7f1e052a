import BracketBalance.Proofs.Restart

namespace BracketBalance

namespace Position

/-- What a walk comes to in the end. -/
def arrival (p : Position) (moves : List Move) : Except Fault Position :=
  (p.walk moves).getLast?.getD (.ok p)

section

variable {p q r : Position} {m : Move} {moves : List Move}

theorem arrival_nil (p : Position) : p.arrival [] = .ok p := rfl

theorem walk_of_ok (h : p.move? m = .ok q) (moves : List Move) :
    p.walk (m :: moves) = .ok q :: q.walk moves := by
  rw [walk, h]

theorem walk_of_error {fault : Fault} (h : p.move? m = .error fault) (moves : List Move) :
    p.walk (m :: moves) = [.error fault] := by
  rw [walk, h]

theorem arrival_of_ok (h : p.move? m = .ok q) (moves : List Move) :
    p.arrival (m :: moves) = q.arrival moves := by
  rw [arrival, walk_of_ok h, List.getLast?_cons, Option.getD_some, arrival]

theorem arrival_of_error {fault : Fault} (h : p.move? m = .error fault) (moves : List Move) :
    p.arrival (m :: moves) = .error fault := by
  rw [arrival, walk_of_error h]
  rfl

theorem arrival_cons_eq_ok_iff :
    p.arrival (m :: moves) = .ok r ↔ ∃ q, p.move? m = .ok q ∧ q.arrival moves = .ok r := by
  cases hm : p.move? m with
  | error fault => simp [arrival_of_error hm]
  | ok q => simp [arrival_of_ok hm]

theorem arrival_concat_eq_ok_iff :
    p.arrival (moves ++ [m]) = .ok r ↔ ∃ q, p.arrival moves = .ok q ∧ q.move? m = .ok r := by
  induction moves generalizing p with
  | nil => simp [arrival_cons_eq_ok_iff, arrival_nil]
  | cons first moves ih =>
    simp only [List.cons_append, arrival_cons_eq_ok_iff, ih]
    constructor
    · rintro ⟨s, hfirst, q, hmoves, hm⟩
      exact ⟨q, ⟨s, hfirst, hmoves⟩, hm⟩
    · rintro ⟨q, ⟨s, hfirst, hmoves⟩, hm⟩
      exact ⟨s, hfirst, q, hmoves, hm⟩

/-- Each result of a walk is that of one move, from the place that the moves before it come to. -/
theorem walk_getElem?_eq_some_iff {i : Nat} {result : Except Fault Position} :
    (p.walk moves)[i]? = some result ↔
      ∃ m q, moves[i]? = some m ∧ p.arrival (moves.take i) = .ok q ∧ result = q.move? m := by
  induction moves generalizing p i with
  | nil => simp [walk]
  | cons m moves ih =>
    cases hm : p.move? m with
    | error fault =>
      rw [walk_of_error hm]
      cases i with
      | zero => simp [hm, arrival_nil, eq_comm]
      | succ i => simp [arrival_of_error hm]
    | ok q =>
      rw [walk_of_ok hm]
      cases i with
      | zero => simp [hm, arrival_nil, eq_comm]
      | succ i => simp [ih, arrival_of_ok hm]

end

def HasRoom (p : Position) (text : List Char) : Prop :=
  p.offset + Utf8.size text ≤ limit ∧ p.line + text.count '\n' ≤ limit ∧
    p.column + (text.takeWhile (· ≠ '\n')).length ≤ limit

instance (p : Position) (text : List Char) : Decidable (p.HasRoom text) :=
  inferInstanceAs (Decidable (_ ∧ _ ∧ _))

section

variable {p : Position} {c : Char} {text : List Char}

theorem Fits.hasRoom_nil (hp : p.Fits) : p.HasRoom [] := by
  obtain ⟨hl, hc, ho⟩ := hp
  exact ⟨ho, hl, hc⟩

/-- Room for one character more is room for the character, and then for the rest. -/
theorem Fits.hasRoom_cons_iff (hp : p.Fits) :
    p.HasRoom (c :: text) ↔ (p.advance c).Fits ∧ (p.advance c).HasRoom text := by
  have hlength := Utf8.length_le_size text
  have hline : (text.takeWhile (· ≠ '\n')).length ≤ text.length :=
    (List.takeWhile_prefix _).length_le
  have hsize := c.utf8Size_pos
  unfold Fits at hp
  by_cases hc : c = '\n'
  · -- after a line feed the column is behind the offset, so room for the bytes is room for it
    subst hc
    have hnone : ('\n' :: text).takeWhile (· ≠ '\n') = [] := rfl
    simp only [HasRoom, Fits, advance, ↓reduceIte, hnone, Utf8.size_cons, List.count_cons_self,
      List.length_nil]
    omega
  · have hmore : (c :: text).takeWhile (· ≠ '\n') = c :: text.takeWhile (· ≠ '\n') :=
      List.takeWhile_cons_of_pos (by simpa using hc)
    simp only [HasRoom, Fits, advance, if_neg hc, hmore, Utf8.size_cons, List.count_cons_of_ne hc,
      List.length_cons]
    omega

/-- A walk forward is exact as long as there is room. -/
theorem Fits.arrival_forward (hp : p.Fits) (text : List Char) :
    p.arrival (text.map .forward) =
      if p.HasRoom text then .ok (p.advanceAll text) else .error .overflow := by
  induction text generalizing p with
  | nil =>
    rw [if_pos hp.hasRoom_nil]
    rfl
  | cons c text ih =>
    rw [List.map_cons]
    by_cases fits : (p.advance c).Fits
    · have hstep : p.move? (.forward c) = .ok (p.advance c) := if_pos fits
      simp only [arrival_of_ok hstep, ih fits, hp.hasRoom_cons_iff, fits, true_and, advanceAll_cons]
    · have hstep : p.move? (.forward c) = .error .overflow := if_neg fits
      simp only [arrival_of_error hstep, hp.hasRoom_cons_iff, fits, false_and, ↓reduceIte]

end

/-- The place after a text, from any place on. -/
theorem advanceAll_eq (p : Position) (text : List Char) :
    p.advanceAll text =
      { line := p.line + text.count '\n'
        column := if '\n' ∈ text then 1 + (text.rtakeWhile (· ≠ '\n')).length
          else p.column + text.length
        offset := p.offset + Utf8.size text } := by
  have hembed : p.advanceAll text = p.embed (ofText text) := by
    rw [← advanceAll_origin, embed_advanceAll p (by decide) (by decide), embed_origin]
  rw [hembed]
  by_cases hn : '\n' ∈ text
  · have hcount := List.count_pos_iff.mpr hn
    simp [embed, ofText, hn, ← Nat.add_assoc]
  · have hcount := List.count_eq_zero.mpr hn
    have hall : text.rtakeWhile (· ≠ '\n') = text := by
      rw [List.rtakeWhile_eq_self_iff]
      intro c hc
      simpa using ne_of_mem_of_not_mem hc hn
    simp only [embed, ofText, hn, hcount, hall, Nat.add_zero, Nat.lt_irrefl, ↓reduceIte, mk.injEq,
      and_true]
    omega

/-- A walk over a text ends just if the bytes, the line feeds and the first line of the text leave every
coordinate within the limit, and then where they and its last line tell. Otherwise it overflows. -/
theorem arrival_over_text (p : Position) (text : List Char) (hp : p.Fits) :
    p.arrival (text.map .forward) =
      if p.HasRoom text then
        .ok {
          line := p.line + text.count '\n'
          column := if '\n' ∈ text then 1 + (text.rtakeWhile (· ≠ '\n')).length
            else p.column + text.length
          offset := p.offset + Utf8.size text }
      else .error .overflow := by
  rw [hp.arrival_forward, advanceAll_eq]

/-- One text takes every coordinate to its limit. Another has a first line that is too long, although the
column would begin anew. -/
theorem arrival_over_text_at_limit :
    let p : Position := ⟨limit - 1, limit - 2, limit - 6⟩
    p.Fits ∧
      p.arrival (['é', 'x', '\n', 'λ'].map .forward) = .ok ⟨limit, 2, limit⟩ ∧
      p.arrival (['a', 'b', 'c', '\n'].map .forward) = .error .overflow := by
  intro p
  have hp : p.Fits := by decide
  exact ⟨hp, arrival_over_text p _ hp, arrival_over_text p _ hp⟩

end Position

end BracketBalance
