/-!
# Tables of code point ranges

A character class is stored as a sorted array of disjoint inclusive ranges and looked up by
bisection. `RangeTable.contains` agrees with the plain scan `RangeTable.mem` on every sorted
table; tests hold that agreement for the tables of this library.
-/

namespace RowGate.Text

abbrev RangeTable := Array (Nat × Nat)

namespace RangeTable

def mem (table : RangeTable) (n : Nat) : Bool :=
  table.any fun r => r.1 ≤ n && n ≤ r.2

/-- Bisection over the ranges `lo ≤ i < hi`. -/
def search (table : RangeTable) (n : Nat) (lo hi : Nat) : Bool :=
  if _h : lo < hi then
    let mid := (lo + hi) / 2
    match table[mid]? with
    | none => false
    | some (a, b) =>
      if n < a then search table n lo mid
      else if b < n then search table n (mid + 1) hi
      else true
  else false
termination_by hi - lo
decreasing_by all_goals omega

def contains (table : RangeTable) (n : Nat) : Bool :=
  search table n 0 table.size

end RangeTable

end RowGate.Text
