/-!
# Binary floating point

A finite value is an integer times a power of two. Decoding reads it off the bits, and rounding picks
the value nearest to a quotient of natural numbers, a tie going to the even mantissa.
-/

namespace Stencil.Number

/-- A finite value `± mantissa * 2 ^ exponent`. -/
structure Binary where
  negative : Bool
  mantissa : Nat
  exponent : Int
deriving Repr, DecidableEq

/-- What the bits of a floating point value stand for. -/
inductive Kind where
  | notANumber
  | infinite (negative : Bool)
  | finite (b : Binary)
deriving Repr, DecidableEq

def kindOfBits (bits : UInt64) : Kind :=
  let negative := bits >>> 63 == 1
  let e := ((bits >>> 52) &&& 0x7FF).toNat
  let f := (bits &&& 0xFFFFFFFFFFFFF).toNat
  if e == 0x7FF then (if f == 0 then .infinite negative else .notANumber)
  else if e == 0 then .finite ⟨negative, f, -1074⟩
  else .finite ⟨negative, Nat.pow 2 52 + f, (e : Int) - 1075⟩

def kind (x : Float) : Kind := kindOfBits x.toBits

def isNaN (x : Float) : Bool := kind x == .notANumber

def isNegative (x : Float) : Bool := x.toBits >>> 63 == 1

def ofParts (negative : Bool) (bits : Nat) : Float :=
  Float.ofBits (UInt64.ofNat (if negative then Nat.pow 2 63 + bits else bits))

def infinity (negative : Bool) : Float := ofParts negative (0x7FF * Nat.pow 2 52)

def notANumber : Float := ofParts false (0x7FF8 * Nat.pow 2 48)

def divNearest (num den : Nat) : Nat :=
  let q := num / den
  let r := num % den
  if 2 * r > den || (2 * r == den && q % 2 == 1) then q + 1 else q

/-- The exponent at which a quotient has a mantissa of 53 bits, or the least exponent. -/
def exponentFor (num den : Nat) : Int :=
  let e := (num.log2 : Int) - den.log2 - 52
  let e := if num * Nat.pow 2 (-e).toNat < Nat.pow 2 52 * (den * Nat.pow 2 e.toNat) then e - 1 else e
  max e (-1074)

/-- The bits of the positive value nearest to `num / den`, the infinite one included. A mantissa that
rounds up to the next power of two carries into the exponent. -/
def bitsNearest (num den : Nat) : Nat :=
  if num == 0 then 0
  else
    let e := exponentFor num den
    let m := divNearest (num * Nat.pow 2 (-e).toNat) (den * Nat.pow 2 e.toNat)
    if m < Nat.pow 2 52 then m else ((e + 1074) * Nat.pow 2 52).toNat + m

def nearest? (negative : Bool) (num den : Nat) : Option Float :=
  let bits := bitsNearest num den
  if bits < 0x7FF * Nat.pow 2 52 then some (ofParts negative bits) else none

def nearest (negative : Bool) (num den : Nat) : Float :=
  (nearest? negative num den).getD (infinity negative)

def ofInt? (n : Int) : Option Float := nearest? (n < 0) n.natAbs 1

def Binary.ratio (b : Binary) : Nat × Nat :=
  (b.mantissa * Nat.pow 2 b.exponent.toNat, Nat.pow 2 (-b.exponent).toNat)

def Binary.truncate (b : Binary) : Int :=
  let n := b.mantissa * Nat.pow 2 b.exponent.toNat / Nat.pow 2 (-b.exponent).toNat
  if b.negative then -(n : Int) else n

def Binary.numerator (b : Binary) : Int :=
  if b.negative then -(b.ratio.1 : Int) else b.ratio.1

def compareInt (n : Int) (b : Binary) : Ordering := compare (n * b.ratio.2) b.numerator

end Stencil.Number
