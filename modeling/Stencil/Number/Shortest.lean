import Stencil.Number.Binary
/-!
# Shortest decimals

The decimal that stands for a floating point value: of the decimals that read back as the value those
with the fewest digits, and of these the nearest. The reals that read back as a value form an interval
from halfway to the neighbour below to halfway to the neighbour above; its ends belong to it exactly
when the mantissa is even.
-/

namespace Stencil.Number

/-- A positive decimal `significand * 10 ^ exponent`. -/
structure Scientific where
  significand : Nat
  exponent : Int
deriving Repr, DecidableEq

def compareScaled (a : Nat) (i : Int) (n : Nat) (j : Int) : Ordering :=
  compare (a * Nat.pow 10 i.toNat * Nat.pow 2 (-j).toNat) (n * Nat.pow 2 j.toNat * Nat.pow 10 (-i).toNat)

/-- Whether the gap below a value is half the gap above it: at a power of two. -/
def Binary.narrowBelow (b : Binary) : Bool := b.mantissa == Nat.pow 2 52 && b.exponent > -1074

def Binary.readsBack (b : Binary) (d : Scientific) : Bool :=
  let low := if b.narrowBelow then 4 * b.mantissa - 1 else 4 * b.mantissa - 2
  let high := 4 * b.mantissa + 2
  let closed := b.mantissa % 2 == 0
  let atLow := compareScaled d.significand d.exponent low (b.exponent - 2)
  let atHigh := compareScaled d.significand d.exponent high (b.exponent - 2)
  (atLow == .gt || (closed && atLow == .eq)) && (atHigh == .lt || (closed && atHigh == .eq))

def Binary.onGrid (b : Binary) (k : Int) : Nat :=
  (b.mantissa * Nat.pow 2 b.exponent.toNat * Nat.pow 10 (-k).toNat) /
    (Nat.pow 2 (-b.exponent).toNat * Nat.pow 10 k.toNat)

def Binary.pick? (b : Binary) (k : Int) : Option Scientific :=
  let n := b.onGrid k
  let below : Scientific := ⟨n, k⟩
  let above : Scientific := ⟨n + 1, k⟩
  match b.readsBack below && n != 0, b.readsBack above with
  | true, true =>
    match compareScaled (2 * n + 1) k (2 * b.mantissa) b.exponent with
    | .lt => some above
    | .gt => some below
    | .eq => some (if n % 2 == 0 then below else above)
  | true, false => some below
  | false, true => some above
  | false, false => none

/-- The least `k`, from a guess that is at most too small, with the value below `10 ^ k`. -/
def Binary.scaleFrom (b : Binary) : Nat → Int → Int
  | 0, k => k
  | tries + 1, k =>
    if compareScaled 1 k b.mantissa b.exponent == .gt then k else b.scaleFrom tries (k + 1)

/-- The number of digits of a value before the point; negative when zeros follow the point. -/
def Binary.scale (b : Binary) : Int :=
  let guess := ((b.mantissa.log2 : Int) + b.exponent) * 30103 / 100000 - 1
  b.scaleFrom 4 guess

/-- The first of the grids of `n`, `n + 1`, ... digits with a point that reads back. -/
def Binary.search (b : Binary) (scale : Int) : Nat → Nat → Option Scientific
  | 0, _ => none
  | left + 1, n => (b.pick? (scale - n)).orElse fun _ => b.search scale left (n + 1)

def Scientific.strip (d : Scientific) : Nat → Scientific
  | 0 => d
  | left + 1 => if d.significand % 10 == 0 && d.significand != 0 then strip ⟨d.significand / 10, d.exponent + 1⟩ left else d

def Binary.exact (b : Binary) : Scientific :=
  ⟨b.mantissa * Nat.pow 2 b.exponent.toNat * Nat.pow 5 (-b.exponent).toNat, -((-b.exponent).toNat : Int)⟩

def Binary.shortest (b : Binary) : Scientific :=
  let d := (b.search b.scale 17 1).getD b.exact
  d.strip 20

end Stencil.Number
