/-!
Sets of code points written as sorted ranges. The character classes of the library are data in this
form; a class is looked up by its ranges and nothing else.
-/

namespace EntityScaffold.Text

/-- some pair of bounds encloses the code point -/
def inRanges (ranges : List (Nat × Nat)) (n : Nat) : Bool :=
  ranges.any fun r => r.1 ≤ n && n ≤ r.2

/-- some progression `first, first + step, …, last` passes through the code point -/
def inRuns (runs : List (Nat × Nat × Nat)) (n : Nat) : Bool :=
  runs.any fun r => r.1 ≤ n && n ≤ r.2.1 && (n - r.1) % r.2.2 == 0

/-- the 128 characters of ASCII, which every class decides without its table -/
def isAscii (c : Char) : Bool := c.toNat < 128

end EntityScaffold.Text
