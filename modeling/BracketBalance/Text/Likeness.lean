namespace BracketBalance

/-- Two texts compared: their lengths, the partners, and half the partners that stand in another order. -/
structure Likeness where
  left : Nat
  right : Nat
  partners : Nat
  moved : Nat
  deriving DecidableEq, Repr

namespace Likeness

def reach (left right : Nat) : Nat := max left right / 2 - 1

/-- The partners of characters, the first of which stands at some index, among characters with their
indices that are still free. -/
def pair (reach : Nat) : Nat → List Char → List (Char × Nat) → List (Char × Nat)
  | _, [], _ => []
  | index, c :: text, free =>
    match free.find? fun d => d.1 = c ∧ index ≤ d.2 + reach ∧ d.2 ≤ index + reach with
    | none => pair reach (index + 1) text free
    | some d => d :: pair reach (index + 1) text (free.erase d)

def of (left right : List Char) : Likeness :=
  let places := right.zipIdx
  let found := pair (reach left.length right.length) 0 left places
  let ordered := places.filter found.contains
  let displaced := (found.zip ordered).filter fun d => d.1.1 != d.2.1
  ⟨left.length, right.length, found.length, displaced.length / 2⟩

def numerator (l : Likeness) : Nat :=
  l.partners * l.partners * (l.left + l.right) + (l.partners - l.moved) * l.left * l.right

def denominator (l : Likeness) : Nat := l.partners * l.left * l.right

def isClose (l : Likeness) : Bool :=
  0 < l.partners && 21 * l.denominator ≤ 10 * l.numerator

def le (a b : Likeness) : Bool :=
  a.numerator * b.denominator ≤ b.numerator * a.denominator

end Likeness

/-- The name that is most like a text, if any is close to it; of equals the last. -/
def closest? (names : List String) (text : String) : Option String :=
  let like (name : String) := Likeness.of text.toList name.toList
  names.foldl (fun best name =>
    if (like name).isClose && best.all (fun other => (like other).le (like name)) then some name
    else best) none

end BracketBalance
