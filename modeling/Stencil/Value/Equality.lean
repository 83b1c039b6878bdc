import Stencil.Number.Arithmetic
import Stencil.Value.Basic
/-!
# Equality and order

Numbers are compared by what they are worth, whatever their types, texts by code points, and lists and
tuples item by item. A missing value can be compared with nothing.
-/

namespace Stencil.Value

open Number

/-- A truth value, an integer or a floating point number as a number. -/
inductive Numeric where
  | whole (n : Int)
  | real (x : Float)

def numeric? : Value → Option Numeric
  | int n => some (.whole n)
  | bool b => some (.whole (if b then 1 else 0))
  | float x => some (.real x)
  | _ => Option.none

def Numeric.compare? : Numeric → Numeric → Option Ordering
  | .whole a, .whole b => some (compare a b)
  | .whole a, .real y => compareWith a y
  | .real x, .whole b => (compareWith b x).map Ordering.swap
  | .real x, .real y => compareFloats x y

def compareBy {α : Type} (c : α → α → Ordering) : List α → List α → Ordering
  | [], [] => .eq
  | [], _ :: _ => .lt
  | _ :: _, [] => .gt
  | a :: as, b :: bs =>
    match c a b with
    | .eq => compareBy c as bs
    | o => o

def compareTexts (a b : String) : Ordering := compareBy compare a.toList b.toList

mutual

def sameKey : Value → Value → Bool
  | none, none => true
  | text a, text b | text a, safe b | safe a, text b | safe a, safe b => a == b
  | bytes a, bytes b => a == b
  | tuple as, tuple bs => sameKeys as bs
  | range a b c, range d e f => a == d && b == e && c == f
  | list a, list b | dict a, dict b | stream a, stream b => a == b
  | view k a, view l b => k == l && a == b
  | outside a, outside b | function a, function b | other a, other b => a == b
  | method a m, method b n => sameKey a b && m == n
  | absent w l, absent x m => w == x && l == m
  | float x, float y => x == y || (isNaN x && isNaN y)
  | a, b =>
    match a.numeric?, b.numeric? with
    | some m, some n => m.compare? n == some .eq
    | _, _ => false

def sameKeys : List Value → List Value → Bool
  | [], [] => true
  | a :: as, b :: bs => sameKey a b && sameKeys as bs
  | _, _ => false

end

mutual

def keyFault? : Value → Option Fault
  | list _ | dict _ | view .keys _ | view .entries _ => some .wrongType
  | absent why false => some (absenceFault why)
  | tuple items => keyFaults? items
  | _ => Option.none

def keyFaults? : List Value → Option Fault
  | [] => Option.none
  | v :: rest =>
    match keyFault? v with
    | some fault => some fault
    | Option.none => keyFaults? rest

end

def checkKey (v : Value) : Eval Unit :=
  match keyFault? v with
  | some fault => throw fault
  | Option.none => return ()

def lookup? (key : Value) : List (Value × Value) → Option Value
  | [] => Option.none
  | (k, v) :: rest => if sameKey k key then some v else lookup? key rest

/-- The entries with one more: a key that is there stays and takes the new value. -/
def insert (key value : Value) : List (Value × Value) → List (Value × Value)
  | [] => [(key, value)]
  | (k, v) :: rest =>
    if sameKey k key then (k, value) :: rest else (k, v) :: insert key value rest

def erase (key : Value) : List (Value × Value) → List (Value × Value)
  | [] => []
  | (k, v) :: rest => if sameKey k key then rest else (k, v) :: erase key rest

def zipAll (f : Value → Value → Eval Bool) : List Value → List Value → Eval Bool
  | a :: as, b :: bs => do if ← f a b then zipAll f as bs else return false
  | _, _ => return true

def entriesAgree (f : Value → Value → Eval Bool) (other : List (Value × Value)) :
    List (Value × Value) → Eval Bool
  | [] => return true
  | (k, v) :: rest => do
    match lookup? k other with
    | some w => if ← f v w then entriesAgree f other rest else return false
    | Option.none => return false

def identical : Value → Value → Bool
  | int a, int b => a == b
  | bool a, bool b => a == b
  | none, none => true
  | float x, float y => x.toBits == y.toBits
  | text a, text b => a == b
  | safe a, safe b => a == b
  | bytes a, bytes b => a == b
  | tuple [], tuple [] => true
  | tuple as, tuple bs => sameKeys as bs
  | list a, list b | dict a, dict b | stream a, stream b => a == b
  | outside a, outside b | function a, function b | other a, other b => a == b
  | _, _ => false

def orIdentical (f : Value → Value → Eval Bool) (a b : Value) : Eval Bool :=
  if identical a b then return true else f a b

def equalWithin : Nat → Value → Value → Eval Bool
  | 0, _, _ => throw .tooDeep
  | depth + 1, a, b => do
    let same := orIdentical (equalWithin depth)
    match a, b with
    | absent why false, _ | _, absent why false => throw (absenceFault why)
    | absent _ true, absent _ true => return true
    | tuple as, tuple bs => if as.length == bs.length then zipAll same as bs else return false
    | list i, list j =>
      let as ← Eval.listAt i
      let bs ← Eval.listAt j
      if as.size == bs.size then zipAll same as.toList bs.toList else return false
    | dict i, dict j =>
      let as ← Eval.dictAt i
      let bs ← Eval.dictAt j
      if as.length == bs.length then entriesAgree same bs as else return false
    | range a b c, range d e f => return sameKeys (rangeItems a b c) (rangeItems d e f)
    | view k i, view l j =>
      let as ← Eval.dictAt i
      let bs ← Eval.dictAt j
      if k == .values || l == .values then return k == l && i == j
      else return as.length == bs.length &&
        (viewItems k as).all fun x => (viewItems l bs).any (sameKey x)
    | float x, float y => return x == y
    | _, _ => return sameKey a b

def equal (a b : Value) : Eval Bool := equalWithin deepest a b

/-- The first place at which two sequences differ: the two items, or the lengths from there on. -/
def firstDifference (f : Value → Value → Eval Bool) :
    List Value → List Value → Eval (Option (Value × Value) × Ordering)
  | a :: as, b :: bs => do
    if ← f a b then firstDifference f as bs else return (some (a, b), .eq)
  | [], [] => return (Option.none, .eq)
  | [], _ :: _ => return (Option.none, .lt)
  | _ :: _, [] => return (Option.none, .gt)

def holds (c : Ordering → Bool) (o : Option Ordering) : Bool := (o.map c).getD false

/-- Whether two values of one kind are in an order; values nested at most so deep. -/
def orderedWithin : Nat → (Ordering → Bool) → Value → Value → Eval Bool
  | 0, _, _, _ => throw .tooDeep
  | depth + 1, c, a, b => do
    let sequences (as bs : List Value) : Eval Bool := do
      match ← firstDifference (orIdentical equal) as bs with
      | (some (x, y), _) => orderedWithin depth c x y
      | (Option.none, o) => return c o
    match a, b with
    | absent why _, _ | _, absent why _ => throw (absenceFault why)
    | tuple as, tuple bs => sequences as bs
    | list i, list j => do
      let as ← Eval.listAt i
      let bs ← Eval.listAt j
      sequences as.toList bs.toList
    | bytes as, bytes bs => return c (compareBy (fun x y => compare x.toNat y.toNat) as bs)
    | _, _ =>
      match a.text?, b.text?, a.numeric?, b.numeric? with
      | some s, some t, _, _ => return c (compareTexts s t)
      | _, _, some m, some n => return holds c (m.compare? n)
      | _, _, _, _ => throw .wrongType

def ordered (c : Ordering → Bool) (a b : Value) : Eval Bool := orderedWithin deepest c a b

def less (a b : Value) : Eval Bool := ordered (· == .lt) a b

def anyEqual (v : Value) : List Value → Eval Bool
  | [] => return false
  | item :: rest => do
    if ← orIdentical equal item v then return true else anyEqual v rest

end Stencil.Value
