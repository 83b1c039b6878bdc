/-!
# Sets of code points

A large set of code points is kept as the sorted array of its boundaries: the points where
membership changes, starting from "outside". A point is inside exactly when an odd number of
boundaries is at or below it.
-/

namespace Stencil.Text

/-- How many entries of a sorted array, from `lo` up to `hi`, are at or below `n`, counted from the
start of the array. -/
def countUpTo (bounds : Array Nat) (n lo hi : Nat) : Nat :=
  if h : lo < hi then
    let mid := (lo + hi) / 2
    if bounds.getD mid 0 ≤ n then countUpTo bounds n (mid + 1) hi
    else countUpTo bounds n lo mid
  else lo
termination_by hi - lo

def inside (bounds : Array Nat) (n : Nat) : Bool :=
  countUpTo bounds n 0 bounds.size % 2 == 1

end Stencil.Text
