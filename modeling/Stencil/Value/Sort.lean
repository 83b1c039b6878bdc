import Stencil.Value.Equality
/-!
# Sorting

A sequence is sorted by keys with an order that may fail. A leading run that ascends is left as it is, one
that descends is turned round, and each further item is put in place by bisection, after its equals.
-/

namespace Stencil.Value

abbrev Keyed := Value × Value

def before (a b : Keyed) : Eval Bool := less a.1 b.1

def ascending : Keyed → List Keyed → Eval (List Keyed × List Keyed)
  | _, [] => return ([], [])
  | last, a :: rest => do
    if ← before a last then return ([], a :: rest)
    else
      let (run, rest) ← ascending a rest
      return (a :: run, rest)

def descending : Keyed → List Keyed → Eval (List Keyed × List Keyed)
  | _, [] => return ([], [])
  | last, a :: rest => do
    if ← before a last then
      let (run, rest) ← descending a rest
      return (a :: run, rest)
    else return ([], a :: rest)

def leadingRun : List Keyed → Eval (List Keyed × List Keyed)
  | a :: b :: rest => do
    if ← before b a then
      let (run, rest) ← descending b rest
      return ((a :: b :: run).reverse, rest)
    else
      let (run, rest) ← ascending b rest
      return (a :: b :: run, rest)
  | short => return (short, [])

/-- The place after all items of a sorted array that an item does not come before, between two
places. -/
def placeFor (sorted : Array Keyed) (a : Keyed) : Nat → Nat → Nat → Eval Nat
  | 0, low, _ => return low
  | fuel + 1, low, high => do
    if low < high then
      let mid := (low + high) / 2
      match sorted[mid]? with
      | some b =>
        if ← before a b then placeFor sorted a fuel low mid
        else placeFor sorted a fuel (mid + 1) high
      | Option.none => return low
    else return low

def insertAll : Array Keyed → List Keyed → Eval (Array Keyed)
  | sorted, [] => return sorted
  | sorted, a :: rest => do
    let i ← placeFor sorted a (sorted.size + 1) 0 sorted.size
    insertAll (sorted.insertIdxIfInBounds i a) rest

/-- Items in the order of their keys; items with equal keys keep their order, also when the result is
reversed. -/
def sortKeyed (items : List Keyed) (reverse : Bool) : Eval (List Value) := do
  let items := if reverse then items.reverse else items
  let (run, rest) ← leadingRun items
  let sorted ← insertAll run.toArray rest
  let found := sorted.toList.map Prod.snd
  return if reverse then found.reverse else found

end Stencil.Value
