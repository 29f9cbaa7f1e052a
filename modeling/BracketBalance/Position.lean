namespace BracketBalance

structure Position where
  line : Nat
  column : Nat
  offset : Nat
  deriving DecidableEq, Repr, Inhabited

namespace Position

def origin : Position := ⟨1, 1, 0⟩

def advance (p : Position) (c : Char) : Position :=
  if c = '\n' then ⟨p.line + 1, 1, p.offset + c.utf8Size⟩
  else ⟨p.line, p.column + 1, p.offset + c.utf8Size⟩

def retreat (p : Position) (c : Char) : Position :=
  ⟨p.line, p.column - 1, p.offset - c.utf8Size⟩

def advanceAll (p : Position) (text : List Char) : Position :=
  text.foldl advance p

/-- The largest coordinate that 64 bits can hold. -/
def limit : Nat := 18446744073709551615

inductive Fault
  | overflow
  | underflow
  /-- The character before is a line feed, so its column is not known. -/
  | lineFeed
  deriving DecidableEq, Repr

def Fault.message : Fault → String
  | overflow => "attempt to add with overflow"
  | underflow => "attempt to subtract with overflow"
  | lineFeed =>
    "assertion `left != right` failed: cannot retreat across a line feed\n" ++
      "  left: '\\n'\n right: '\\n'"

def Fits (p : Position) : Prop :=
  p.line ≤ limit ∧ p.column ≤ limit ∧ p.offset ≤ limit

instance (p : Position) : Decidable p.Fits :=
  inferInstanceAs (Decidable (_ ∧ _ ∧ _))

def advance? (p : Position) (c : Char) : Except Fault Position :=
  if (p.advance c).Fits then .ok (p.advance c) else .error .overflow

/-- `retreat` in 64-bit coordinates; it never crosses a line feed. -/
def retreat? (p : Position) (c : Char) : Except Fault Position :=
  if c = '\n' then .error .lineFeed
  else if c.utf8Size ≤ p.offset ∧ 1 ≤ p.column then .ok (p.retreat c)
  else .error .underflow

inductive Move
  | forward (c : Char)
  | back (c : Char)
  deriving DecidableEq, Repr

def move? (p : Position) : Move → Except Fault Position
  | .forward c => p.advance? c
  | .back c => p.retreat? c

/-- What each move of a walk comes to, up to and including the first fault. -/
def walk (p : Position) : List Move → List (Except Fault Position)
  | [] => []
  | m :: ms =>
    match p.move? m with
    | .ok q => .ok q :: walk q ms
    | .error fault => [.error fault]

@[simp] theorem advance_offset (p : Position) (c : Char) :
    (p.advance c).offset = p.offset + c.utf8Size := by
  unfold advance
  split <;> rfl

@[simp] theorem advanceAll_nil (p : Position) : p.advanceAll [] = p := rfl

@[simp] theorem advanceAll_cons (p : Position) (c : Char) (text : List Char) :
    p.advanceAll (c :: text) = (p.advance c).advanceAll text := rfl

theorem advanceAll_append (p : Position) (a b : List Char) :
    p.advanceAll (a ++ b) = (p.advanceAll a).advanceAll b :=
  List.foldl_append

theorem retreat_advance (p : Position) {c : Char} (h : c ≠ '\n') :
    (p.advance c).retreat c = p := by
  simp [advance, retreat, h]

theorem advance_retreat (p : Position) {c : Char} (h : c ≠ '\n') (offset : c.utf8Size ≤ p.offset)
    (column : 1 ≤ p.column) : (p.retreat c).advance c = p := by
  simp [advance, retreat, h, offset, column]

/-- A checked step forward succeeds exactly when its result fits. -/
theorem advance?_eq_ok_iff {p q : Position} {c : Char} :
    p.advance? c = .ok q ↔ (p.advance c).Fits ∧ q = p.advance c := by
  unfold advance?
  split
  · next fits => simp only [Except.ok.injEq, fits, true_and, eq_comm]
  · next overflows => simp only [reduceCtorEq, overflows, false_and]

/-- A checked step back succeeds exactly when it crosses no line feed and subtracts no more than
there is. -/
theorem retreat?_eq_ok_iff {p q : Position} {c : Char} :
    p.retreat? c = .ok q ↔
      c ≠ '\n' ∧ (c.utf8Size ≤ p.offset ∧ 1 ≤ p.column) ∧ q = p.retreat c := by
  unfold retreat?
  split
  · next lineFeed => simp only [reduceCtorEq, ne_eq, lineFeed, not_true_eq_false, false_and]
  · next other =>
    split
    · next fits => simp only [Except.ok.injEq, ne_eq, other, not_false_eq_true, fits, true_and,
        and_self, eq_comm]
    · next underflows => simp only [reduceCtorEq, underflows, false_and, and_false]

end Position

end BracketBalance
