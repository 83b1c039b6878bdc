import Stencil.Number.Binary
/-!
# Arithmetic

Division and remainder of floating point values go with the floor: the remainder has the sign of the
divisor. Integers and floating point values are compared exactly.
-/

namespace Stencil.Number

/-- A finite value from a signed integer times a power of two that it can hold exactly. -/
def exactly (negative : Bool) (n : Nat) (e : Int) : Float :=
  nearest negative (n * Nat.pow 2 e.toNat) (Nat.pow 2 (-e).toNat)

/-- The remainder of a division toward zero; it has the sign of the dividend. -/
def remainderTowardZero (x y : Float) : Float :=
  match kind x, kind y with
  | .finite a, .finite b =>
    if b.mantissa == 0 then notANumber
    else
      let e := min a.exponent b.exponent
      let m := a.mantissa * Nat.pow 2 (a.exponent - e).toNat
      let n := b.mantissa * Nat.pow 2 (b.exponent - e).toNat
      exactly a.negative (m % n) e
  | .finite _, .infinite _ => x
  | _, _ => notANumber

def signedZero (negative : Bool) : Float := ofParts negative 0

def remainder (x y : Float) : Float :=
  let r := remainderTowardZero x y
  if r == 0 then signedZero (isNegative y)
  else if isNegative r != isNegative y then r + y
  else r

def floorQuotient (x y : Float) : Float :=
  let t := remainderTowardZero x y
  let q := (x - t) / y
  let q := if t != 0 && isNegative t != isNegative y then q - 1 else q
  if q == 0 then signedZero (isNegative (x / y))
  else
    let f := q.floor
    if q - f > 0.5 then f + 1 else f

def compareWith (n : Int) (x : Float) : Option Ordering :=
  match kind x with
  | .notANumber => none
  | .infinite negative => some (if negative then .gt else .lt)
  | .finite b => some (compareInt n b)

def compareFloats (x y : Float) : Option Ordering :=
  if x < y then some .lt else if x == y then some .eq else if x > y then some .gt else none

/-- The quotient of two integers with a divisor that is not zero, unless it is too large. -/
def quotient? (a b : Int) : Option Float :=
  if a == 0 then some (signedZero (b < 0))
  else nearest? ((a < 0) != (b < 0)) a.natAbs b.natAbs

def Binary.floor (b : Binary) : Int := b.numerator.fdiv b.ratio.2

def Binary.ceil (b : Binary) : Int := -((-b.numerator).fdiv b.ratio.2)

def Binary.toNearest (b : Binary) : Int :=
  let n : Nat := divNearest b.ratio.1 b.ratio.2
  if b.negative then -(n : Int) else n

end Stencil.Number
