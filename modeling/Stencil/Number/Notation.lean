import Stencil.Number.Decimal
import Stencil.Number.Shortest
/-!
# Notation of floating point values

The shortest decimal of a value is written positionally when its leading digit stands between the
fourth place after the point and the sixteenth before it, and otherwise with an exponent that has a
sign and at least two digits. A whole value keeps one zero after the point.
-/

namespace Stencil.Number

def padZeros (width : Nat) (cs : List Char) : List Char :=
  List.replicate (width - cs.length) '0' ++ cs

def exponentText (e : Int) : List Char :=
  (if e < 0 then '-' else '+') :: padZeros 2 (digits e.natAbs)

def positional (ds : List Char) (point : Int) : List Char :=
  if point ≤ 0 then '0' :: '.' :: (List.replicate (-point).toNat '0' ++ ds)
  else
    let n := point.toNat
    if ds.length ≤ n then ds ++ List.replicate (n - ds.length) '0' ++ ['.', '0']
    else ds.take n ++ '.' :: ds.drop n

def exponential (ds : List Char) (point : Int) : List Char :=
  match ds with
  | [] => []
  | d :: rest =>
    (if rest.isEmpty then [d] else d :: '.' :: rest) ++ 'e' :: exponentText (point - 1)

def Scientific.text (d : Scientific) : List Char :=
  let ds := digits d.significand
  let point := d.exponent + ds.length
  if -4 < point && point ≤ 16 then positional ds point else exponential ds point

def floatChars (x : Float) : List Char :=
  match kind x with
  | .notANumber => "nan".toList
  | .infinite negative => (if negative then "-inf" else "inf").toList
  | .finite b =>
    let text := if b.mantissa == 0 then "0.0".toList else b.shortest.text
    if b.negative then '-' :: text else text

def floatText (x : Float) : String := String.ofList (floatChars x)

end Stencil.Number
