import Stencil.Text.Blank
import Stencil.Text.Digit
import Stencil.Number.Binary
/-!
# Reading numbers

Numbers written as text: white space around them is left aside, digits may be of any script, and an
underscore may stand between two digits.
-/

namespace Stencil.Number

open Text

/-- White space around a number: that of texts without the information separators. -/
def isNumberBlank (c : Char) : Bool := isBlank c && !(28 ≤ c.toNat && c.toNat ≤ 31)

def takeSign : List Char → Bool × List Char
  | '-' :: rest => (true, rest)
  | '+' :: rest => (false, rest)
  | cs => (false, cs)

/-- The longest run of digits below a base at the beginning of a text, single underscores between
them left out, and the text after it. -/
def takeDigits (base : Nat) : List Char → List Nat × List Char
  | [] => ([], [])
  | [c] => match baseValue? c with
    | some d => if d < base then ([d], []) else ([], [c])
    | none => ([], [c])
  | c :: d :: rest =>
    match baseValue? c with
    | some n =>
      if n < base then
        if d == '_' then
          match takeDigits base rest with
          | ([], _) => ([n], d :: rest)
          | (ns, after) => (n :: ns, after)
        else
          let (ns, after) := takeDigits base (d :: rest)
          (n :: ns, after)
      else ([], c :: d :: rest)
    | none => ([], c :: d :: rest)

def ofBase (base : Nat) (ds : List Nat) : Nat := ds.foldl (fun n d => base * n + d) 0

def announced? : Char → Char → Option Nat
  | '0', 'x' => some 16
  | '0', 'X' => some 16
  | '0', 'o' => some 8
  | '0', 'O' => some 8
  | '0', 'b' => some 2
  | '0', 'B' => some 2
  | _, _ => none

/-- The digits of a number in a base after its announcement, which a base of zero requires for any
base but ten. -/
def digitsIn (base : Nat) (cs : List Char) : Nat × List Char :=
  match cs with
  | a :: b :: rest =>
    match announced? a b with
    | some k =>
      if base == 0 || base == k then
        (k, match rest with
          | '_' :: after => after
          | _ => rest)
      else (base, cs)
    | none => (if base == 0 then 10 else base, cs)
  | _ => (if base == 0 then 10 else base, cs)

inductive NoInteger where
  | malformed
  | tooManyDigits (count : Nat)

def isPowerBase (base : Nat) : Bool := base == 2 || base == 4 || base == 8 || base == 16 || base == 32

/-- The integer that a text writes in a base; `limit` is the most digits it may have. -/
def readInt (base limit : Nat) (text : List Char) : Except NoInteger Int :=
  let (negative, cs) := takeSign (stripEnds isNumberBlank text)
  let (b, cs') := digitsIn base cs
  match takeDigits b cs' with
  | ([], _) => .error .malformed
  | (ds, rest) =>
    if !rest.isEmpty then .error .malformed
    else if base == 0 && b == 10 && ds.head? == some 0 && ds.any (· != 0) then .error .malformed
    else if !isPowerBase b && ds.length > limit then .error (.tooManyDigits ds.length)
    else
      let n : Nat := ofBase b ds
      .ok (if negative then -(n : Int) else n)

/-- The value of `digits * 10 ^ e`, which is out of every range when the exponent is far from
zero. -/
def ofDecimal (negative : Bool) (ds : List Nat) (e : Int) : Float :=
  let n := ofBase 10 ds
  if n == 0 then ofParts negative 0
  else if e + ds.length > 400 && e > 0 then infinity negative
  else if e + ds.length < -400 then ofParts negative 0
  else nearest negative (n * Nat.pow 10 e.toNat) (Nat.pow 10 (-e).toNat)

def takeExponent (cs : List Char) : Int × List Char :=
  match cs with
  | c :: rest =>
    if c == 'e' || c == 'E' then
      let (negative, cs') := takeSign rest
      match takeDigits 10 cs' with
      | ([], _) => (0, cs)
      | (ds, after) => let n : Nat := ofBase 10 ds; (if negative then -(n : Int) else n, after)
    else (0, cs)
  | [] => (0, [])

def readDecimal? (negative : Bool) (cs : List Char) : Option Float :=
  let (whole, rest) := takeDigits 10 cs
  let (places, rest) := match rest with
    | '.' :: after => takeDigits 10 after
    | _ => ([], rest)
  if whole.isEmpty && places.isEmpty then none
  else
    let (e, rest) := takeExponent rest
    if rest.isEmpty then some (ofDecimal negative (whole ++ places) (e - places.length)) else none

def readFloat? (text : List Char) : Option Float :=
  let (negative, cs) := takeSign (stripEnds isNumberBlank text)
  let word := String.ofList (cs.map Char.toLower)
  if word == "nan" then some notANumber
  else if word == "inf" || word == "infinity" then some (infinity negative)
  else readDecimal? negative cs

end Stencil.Number
