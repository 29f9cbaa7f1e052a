namespace BracketBalance.Pattern

def depthLimit : Nat := 250

structure Sequence where
  count : Nat
  before : Nat
  last : Nat
  /-- There is a last part, and it can be repeated. -/
  repeatable : Bool
  deriving DecidableEq, Repr

namespace Sequence

def empty : Sequence := ⟨0, 0, 0, false⟩

def depth (s : Sequence) : Nat :=
  if s.count ≤ 1 then max s.before s.last else max s.before s.last + 1

def add (s : Sequence) (depth : Nat) (repeatable : Bool) : Sequence :=
  ⟨s.count + 1, max s.before s.last, depth, repeatable⟩

def repeat? (s : Sequence) : Option Sequence :=
  if s.repeatable then some { s with last := s.last + 1 } else none

end Sequence

structure Branches where
  earlier : Option Nat
  current : Sequence
  deriving DecidableEq, Repr

namespace Branches

def empty : Branches := ⟨none, .empty⟩

def next (b : Branches) : Branches :=
  ⟨some (max (b.earlier.getD 0) b.current.depth), .empty⟩

def depth (b : Branches) : Nat :=
  match b.earlier with
  | none => b.current.depth
  | some earlier => max earlier b.current.depth + 1

end Branches

/-- A set of characters that is open: its members, counted, with their greatest depth, and the depth of
what they are going to be combined with. -/
structure Bracket where
  count : Nat
  members : Nat
  combined : Option Nat
  /-- Only dashes stand in the set. -/
  fresh : Bool
  deriving DecidableEq, Repr

namespace Bracket

def empty : Bracket := ⟨0, 0, none, true⟩

def add (b : Bracket) (depth : Nat) : Bracket :=
  { b with count := b.count + 1, members := max b.members depth, fresh := false }

def inside (b : Bracket) : Nat :=
  let members := if b.count ≤ 1 then b.members else b.members + 1
  match b.combined with
  | none => members
  | some combined => max combined members + 1

def combine (b : Bracket) : Bracket := ⟨0, 0, some b.inside, false⟩

def depth (b : Bracket) : Nat := b.inside + 1

end Bracket

end BracketBalance.Pattern
