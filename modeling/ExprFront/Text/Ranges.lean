/-!
# Character classes as range tables

A Unicode property is stored as a sorted array of disjoint, inclusive ranges of code points.
`CharRanges.contains` asks whether a character falls in one of them. The tables are small
enough that a scan from the front is as fast as anything else the scanner does per character,
and the scan is the definition a proof reads.
-/

namespace ExprFront.Text

/-- A set of code points, written as inclusive ranges `(lo, hi)`. -/
structure CharRanges where
  /-- The ranges, sorted and disjoint. -/
  ranges : Array (Nat × Nat)

namespace CharRanges

/-- Whether the code point `n` lies in one of the ranges. -/
def containsNat (t : CharRanges) (n : Nat) : Bool :=
  t.ranges.any fun r => r.1 ≤ n && n ≤ r.2

/-- Whether the character `c` lies in one of the ranges. -/
def contains (t : CharRanges) (c : Char) : Bool :=
  t.containsNat c.toNat

end CharRanges

end ExprFront.Text
