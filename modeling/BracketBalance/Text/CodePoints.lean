namespace BracketBalance

/-- Ranges of code points, each as its first and its last one. -/
abbrev CodePoints := List (Nat × Nat)

namespace CodePoints

def includes (ranges : CodePoints) (c : Char) : Bool :=
  ranges.any fun range => range.1 ≤ c.toNat && c.toNat ≤ range.2

end CodePoints

end BracketBalance
