import Stencil.Number.Notation
/-!
# Fixed numbers of digits

Rounding to a number of places and writing with a set number of digits. The exact binary value is
rounded, and a value halfway between two decimals goes to the even one.
-/

namespace Stencil.Number

def Binary.scaledNearest (b : Binary) (places : Int) : Nat :=
  let (num, den) := b.ratio
  divNearest (num * Nat.pow 10 places.toNat) (den * Nat.pow 10 (-places).toNat)

def Binary.round? (b : Binary) (places : Int) : Option Float :=
  let n := b.scaledNearest places
  nearest? b.negative (n * Nat.pow 10 (-places).toNat) (Nat.pow 10 places.toNat)

def mostPlaces : Int := 323

def leastPlaces : Int := -308

/-- A floating point value rounded to a number of places, unless it becomes too large. -/
def roundPlaces? (x : Float) (places : Int) : Option Float :=
  match kind x with
  | .finite b =>
    if places > mostPlaces then some x
    else if places < leastPlaces then some (ofParts b.negative 0)
    else b.round? places
  | _ => some x

def roundTens (i : Int) (n : Nat) : Int :=
  let step := Nat.pow 10 n
  let m : Nat := divNearest i.natAbs step * step
  if i < 0 then -m else m

def withPlaces (n places : Nat) : List Char :=
  let ds := padZeros (places + 1) (digits n)
  let whole := ds.take (ds.length - places)
  if places == 0 then whole else whole ++ '.' :: ds.drop (ds.length - places)

def Binary.fixed (b : Binary) (places : Nat) : List Char := withPlaces (b.scaledNearest places) places

/-- The digits and the decimal exponent of a value with `places + 1` significant digits. -/
def Binary.significant (b : Binary) (places : Nat) : Nat × Int :=
  if b.mantissa == 0 then (0, 0)
  else
    let e := b.scale - 1
    let n := b.scaledNearest (places - e)
    if n ≥ Nat.pow 10 (places + 1) then (n / 10, e + 1) else (n, e)

def withExponent (mark : Char) (n : Nat) (places : Nat) (e : Int) : List Char :=
  withPlaces n places ++ mark :: exponentText e

def Binary.scientific (b : Binary) (mark : Char) (places : Nat) : List Char :=
  let (n, e) := b.significant places
  withExponent mark n places e

def dropTrailingZeros (cs : List Char) : List Char :=
  if cs.contains '.' then
    let rest := cs.reverse.dropWhile (· == '0')
    (if rest.head? == some '.' then rest.tail else rest).reverse
  else cs

def withPoint (cs : List Char) : List Char :=
  if cs.contains '.' then cs else cs.takeWhile isAsciiDigit ++ '.' :: cs.dropWhile isAsciiDigit

/-- A finite value, its sign left aside, with a number of significant digits, in the shorter of the
two notations. `reach` is the number of digits before the point beyond which an exponent is used. -/
def Binary.general (b : Binary) (mark : Char) (count reach : Nat) (keepZeros : Bool) : List Char :=
  let p := max count 1
  let (n, e) := b.significant (p - 1)
  let trim := if keepZeros then id else dropTrailingZeros
  if -4 ≤ e && e < reach then trim (b.fixed ((p : Int) - 1 - e).toNat)
  else trim (withPlaces n (p - 1)) ++ mark :: exponentText e

end Stencil.Number
