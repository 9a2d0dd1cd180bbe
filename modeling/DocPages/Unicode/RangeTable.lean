/-!
# Code point range tables

A character property of the Unicode standard is published as a list of closed code point
ranges. A `RangeTable` holds such a list, sorted and disjoint, and answers membership by
binary search. `RangeTable.Mem` states membership without the search, for reasoning.
-/

namespace DocPages.Unicode

/-- Closed code point ranges `(lo, hi)`, sorted by `lo` and pairwise disjoint. -/
structure RangeTable where
  /-- The ranges, in increasing order. -/
  ranges : Array (Nat × Nat)

namespace RangeTable

/-- Code point `c` lies in one of the table's ranges. -/
def Mem (t : RangeTable) (c : Nat) : Prop :=
  ∃ r ∈ t.ranges.toList, r.1 ≤ c ∧ c ≤ r.2

/-- Binary search for `c` among the ranges with index in `[lo, hi)`. -/
def memWithin (t : RangeTable) (c : Nat) (lo hi : Nat) : Bool :=
  if lo < hi then
    let mid := (lo + hi) / 2
    let r := t.ranges.getD mid (0, 0)
    if c < r.1 then t.memWithin c lo mid
    else if r.2 < c then t.memWithin c (mid + 1) hi
    else true
  else false
termination_by hi - lo

/-- Whether code point `c` lies in one of the table's ranges. -/
def contains (t : RangeTable) (c : Nat) : Bool :=
  t.memWithin c 0 t.ranges.size

end RangeTable

end DocPages.Unicode
