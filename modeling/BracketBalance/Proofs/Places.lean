import Mathlib.Data.List.DropRight
import BracketBalance.Position

namespace BracketBalance

namespace Utf8

def size (text : List Char) : Nat :=
  (String.ofList text).utf8ByteSize

def take : Nat → List Char → List Char
  | _, [] => []
  | n, c :: text => if c.utf8Size ≤ n then c :: take (n - c.utf8Size) text else []

def drop : Nat → List Char → List Char
  | _, [] => []
  | n, c :: text => if c.utf8Size ≤ n then drop (n - c.utf8Size) text else c :: text

def slice (start stop : Nat) (text : List Char) : List Char :=
  drop start (take stop text)

@[simp] theorem size_nil : size [] = 0 := rfl

@[simp] theorem size_append (a b : List Char) : size (a ++ b) = size a + size b := by
  rw [size, String.ofList_append, String.utf8ByteSize_append]
  rfl

@[simp] theorem size_cons (c : Char) (text : List Char) :
    size (c :: text) = c.utf8Size + size text := by
  have hc : size [c] = c.utf8Size := by
    rw [size, ← String.singleton_eq_ofList, String.utf8ByteSize_singleton]
  rw [← List.singleton_append, size_append, hc]

theorem length_le_size (text : List Char) : text.length ≤ size text := by
  induction text with
  | nil => exact Nat.le_refl 0
  | cons c text ih =>
    have hc := c.utf8Size_pos
    rw [List.length_cons, size_cons]
    omega

/-- At the end of some characters a text is cut just there. -/
theorem take_append (a b : List Char) : take (size a) (a ++ b) = a := by
  induction a with
  | nil =>
    cases b with
    | nil => rfl
    | cons c b =>
      have hc : ¬ c.utf8Size ≤ 0 := Nat.not_le.mpr c.utf8Size_pos
      simp [take, hc]
  | cons c a ih => simp [take, ih]

theorem drop_append (a b : List Char) : drop (size a) (a ++ b) = b := by
  induction a with
  | nil =>
    cases b with
    | nil => rfl
    | cons c b =>
      have hc : ¬ c.utf8Size ≤ 0 := Nat.not_le.mpr c.utf8Size_pos
      simp [drop, hc]
  | cons c a ih => simp [drop, ih]

end Utf8

namespace Position

/-- The place after a text: one line more than it has line feeds, one column more than it has characters
after the last of them, and its bytes. -/
def ofText (text : List Char) : Position where
  line := 1 + text.count '\n'
  column := 1 + (text.rtakeWhile (· ≠ '\n')).length
  offset := Utf8.size text

theorem ofText_concat (text : List Char) (c : Char) :
    ofText (text ++ [c]) = (ofText text).advance c := by
  by_cases hc : c = '\n'
  · subst hc
    simp [ofText, advance, Nat.add_assoc]
  · have hn : text.count '\n' = (text ++ [c]).count '\n' := by
      simp [List.count_cons_of_ne hc]
    rw [ofText, ← hn, List.rtakeWhile_concat_pos _ _ _ (by simpa using hc)]
    simp [ofText, advance, hc, Nat.add_assoc]

/-- A walk from the beginning comes to the place that the text tells. -/
theorem advanceAll_origin (text : List Char) : origin.advanceAll text = ofText text := by
  induction text using List.reverseRecOn with
  | nil => rfl
  | append_singleton text c ih =>
    rw [advanceAll_append, ih, ofText_concat]
    rfl

theorem ofText_append (a b : List Char) : ofText (a ++ b) = (ofText a).advanceAll b := by
  rw [← advanceAll_origin, advanceAll_append, advanceAll_origin]

@[simp] theorem advanceAll_offset (p : Position) (text : List Char) :
    (p.advanceAll text).offset = p.offset + Utf8.size text := by
  induction text generalizing p with
  | nil => rfl
  | cons c text ih => simp [ih, Nat.add_assoc]

end Position

end BracketBalance
