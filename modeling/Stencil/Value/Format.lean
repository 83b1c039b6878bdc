import Stencil.Number.Arithmetic
import Stencil.Number.Fixed
import Stencil.Text.Entity
import Stencil.Text.Quoted
import Stencil.Value.Display
import Stencil.Value.Equality
/-!
# Putting values into texts

A text with percent signs takes values one after the other or by key, each with flags, a width and a
precision before the letter that says how it is written.
-/

namespace Stencil.Value

open Number

def escapeText (s : String) : String := String.ofList (Text.escapeByNumbers s.toList)

/-- A floating point number written in the way of a letter, without its sign. The alternate way keeps the
zeros at the end and the point. -/
def realDigits (letter : Char) (precision : Nat) (alternate : Bool) (x : Float) : List Char :=
  match kind x with
  | .notANumber => if letter.isUpper then "NAN".toList else "nan".toList
  | .infinite _ => if letter.isUpper then "INF".toList else "inf".toList
  | .finite b =>
    let cs := match letter.toLower with
      | 'e' => b.scientific letter precision
      | 'g' => b.general (if letter.isUpper then 'E' else 'e') precision (max precision 1) alternate
      | _ => b.fixed precision
    if alternate then withPoint cs else cs

def baseDigitsWithin (base : Nat) : Nat → Nat → List Char → List Char
  | 0, _, after => after
  | fuel + 1, n, after =>
    let after := Text.hexDigit (n % base) :: after
    if n < base then after else baseDigitsWithin base fuel (n / base) after

def baseDigits (base n : Nat) : List Char := baseDigitsWithin base (n.log2 + 1) n []

structure Conversion where
  left : Bool
  plus : Bool
  blank : Bool
  alternate : Bool
  zeros : Bool
  width : Nat
  precision : Option Nat

def Conversion.sign (c : Conversion) (negative : Bool) : List Char :=
  if negative then ['-'] else if c.plus then ['+'] else if c.blank then [' '] else []

def Conversion.pad (c : Conversion) (isNumber : Bool) (sign body : List Char) : List Char :=
  let missing := c.width - (sign ++ body).length
  if c.left then sign ++ body ++ List.replicate missing ' '
  else if c.zeros && isNumber then sign ++ List.replicate missing '0' ++ body
  else List.replicate missing ' ' ++ sign ++ body

def toInteger (v : Value) : Eval Int := do
  match v with
  | absent why _ => throw (absenceFault why)
  | float x => match kind x with
    | .finite b => return b.truncate
    | .infinite _ => throw .overflow
    | .notANumber => Eval.refuse "cannot convert float NaN to integer"
  | _ => match v.int? with
    | some n => return n
    | Option.none => throw .wrongType

def toReal (v : Value) : Eval Float := do
  match v, v.int? with
  | absent why _, _ => throw (absenceFault why)
  | float x, _ => return x
  | _, some n => match ofInt? n with
    | some x => return x
    | Option.none => throw .overflow
  | _, Option.none => throw .wrongType

def inserted (guarded : Bool) (v : Value) : Eval String := do
  match v with
  | safe s => return s
  | _ => do
    let s ← display v
    return if guarded then escapeText s else s

def baseOf : Char → Nat
  | 'o' => 8
  | 'x' | 'X' => 16
  | _ => 10

def convert (c : Conversion) (guarded : Bool) (letter : Char) (v : Value) : Eval (List Char) := do
  let cut (s : String) : List Char := match c.precision with
    | some p => s.toList.take p
    | Option.none => s.toList
  match letter with
  | 's' => return c.pad false [] (cut (← inserted guarded v))
  | 'r' => return c.pad false [] (cut (← shown v))
  | 'a' => return c.pad false [] (cut (Text.asciiOnly (← shown v)))
  | 'c' => match v.text?, v.int? with
    | some s, _ => if s.length == 1 then return c.pad false [] s.toList else throw .wrongType
    | _, some n =>
      if 0 ≤ n && n < 0x110000 then return c.pad false [] [Char.ofNat n.toNat] else throw .overflow
    | _, _ => throw .wrongType
  | 'd' | 'i' | 'u' | 'o' | 'x' | 'X' => do
    let base := baseOf letter
    let n ← match v.int? with
      | some n => pure n
      | Option.none => if base = 10 then toInteger v else throw .wrongType
    let ds ← if base = 10 then do pure (← integerText n.natAbs).toList else pure (baseDigits base n.natAbs)
    let ds := padZeros (c.precision.getD 0) (if letter == 'X' then ds.map Char.toUpper else ds)
    let lead := if c.alternate && base != 10 then ['0', letter] else []
    return c.pad true (c.sign (n < 0) ++ lead) ds
  | 'e' | 'E' | 'f' | 'F' | 'g' | 'G' => do
    let x ← toReal v
    return c.pad true (c.sign (isNegative x && !isNaN x))
      (realDigits letter (c.precision.getD 6) c.alternate x)
  | _ => throw .wrongType

/-- The values still to be put in, and whether they may be taken by key. -/
structure Supply where
  rest : List Value
  mapping : Option Value

def Supply.next (s : Supply) : Eval (Value × Supply) :=
  match s.rest with
  | v :: rest => return (v, { s with rest })
  | [] => throw .wrongType

def takeKey : Nat → List Char → Option (List Char × List Char)
  | _, [] => Option.none
  | depth, c :: rest =>
    if c = ')' then
      match depth with
      | 0 => some ([], rest)
      | depth + 1 => (takeKey depth rest).map fun (key, after) => (c :: key, after)
    else (takeKey (if c = '(' then depth + 1 else depth) rest).map fun (key, after) => (c :: key, after)

def isFlag (c : Char) : Bool := c == '-' || c == '+' || c == ' ' || c == '#' || c == '0'

/-- The number at the beginning of a text, or a value of the supply for a star. Numbers up to `most` are
taken; what is wrong with a greater one is said by `name`. -/
def takeCount (name : String) (most : Nat) (s : Supply) (cs : List Char) :
    Eval (Option Int × Supply × List Char) := do
  match cs with
  | '*' :: rest => do
    let (v, s) ← s.next
    match v.int? with
    | some n => if fits most n then return (some n, s, rest) else throw .overflow
    | Option.none => throw .wrongType
  | _ =>
    let ds := cs.takeWhile isAsciiDigit
    let n : Nat := ofDigits ds
    if n > most then Eval.refuse (name ++ " too big")
    else return (if ds.isEmpty then Option.none else some (n : Int), s, cs.dropWhile isAsciiDigit)

def keyed (s : Supply) (key : String) : Eval Value := do
  match s.mapping with
  | some (.dict cell) =>
    match lookup? (.text key) (← Eval.dictAt cell) with
    | some v => return v
    | Option.none => throw (.missingKey (Text.quote key))
  | some (.absent why _) => throw (absenceFault why)
  | _ => throw .wrongType

def namedLetter (c : Char) : String :=
  let shown := if 31 ≤ c.toNat && c.toNat < 127 then c else '?'
  "'" ++ String.singleton shown ++ "' (0x" ++ String.ofList (baseDigits 16 c.toNat) ++ ")"

def conversionLetters : List Char := "sracdiuoxXeEfFgG".toList

/-- A conversion after its percent sign: the written value, and what is left. -/
def insertOne (guarded : Bool) (total : Nat) (s : Supply) (cs : List Char) :
    Eval (List Char × Supply × List Char) := do
  let (s, cs) ← match cs with
    | '(' :: after => match s.mapping with
      | Option.none => throw .wrongType
      | some _ => match takeKey 0 after with
        | some (key, after) => pure ({ s with rest := [← keyed s (String.ofList key)] }, after)
        | Option.none => Eval.refuse "incomplete format key"
    | _ => pure (s, cs)
  let flags := cs.takeWhile isFlag
  let (width, s, cs) ← takeCount "width" greatestWord s (cs.dropWhile isFlag)
  let (precision, s, cs) ← match cs with
    | '.' :: after => do
      let (p, s, after) ← takeCount "precision" greatestHalfWord s after
      pure (some (p.getD 0).toNat, s, after)
    | _ => pure (Option.none, s, cs)
  let cs := match cs with
    | 'h' :: after | 'l' :: after | 'L' :: after => after
    | _ => cs
  match cs with
  | [] => Eval.refuse "incomplete format"
  | letter :: after => do
    let w := width.getD 0
    let c : Conversion := ⟨flags.contains '-' || w < 0, flags.contains '+', flags.contains ' ',
      flags.contains '#', flags.contains '0', w.natAbs, precision⟩
    let (v, s) ← s.next
    if conversionLetters.contains letter then return (← convert c guarded letter v, s, after)
    else
      let place := total - after.length - 1
      Eval.refuse ("unsupported format character " ++ namedLetter letter ++ " at index " ++ decimal place)

def insertWith (guarded : Bool) (total : Nat) : Nat → Supply → List Char → Eval (List Char × Supply)
  | 0, s, _ => return ([], s)
  | _ + 1, s, [] => return ([], s)
  | fuel + 1, s, '%' :: '%' :: rest => do
    let (tail, s) ← insertWith guarded total fuel s rest
    return ('%' :: tail, s)
  | fuel + 1, s, '%' :: rest => do
    let (body, s, rest) ← insertOne guarded total s rest
    let (tail, s) ← insertWith guarded total fuel s rest
    return (body ++ tail, s)
  | fuel + 1, s, c :: rest => do
    let (tail, s) ← insertWith guarded total fuel s rest
    return (c :: tail, s)

/-- Values put into a text: the items of a tuple, or one value, which may also be asked by key. -/
def insertInto (template : String) (guarded : Bool) (values : Value) : Eval String := do
  let mapping : Option Value := match values with
    | dict _ | list _ | range .. | bytes _ | absent .. => some values
    | _ => Option.none
  let supply : Supply := match values with
    | tuple items => ⟨items, Option.none⟩
    | v => ⟨[v], mapping⟩
  let cs := template.toList
  let (s, left) ← insertWith guarded cs.length (cs.length + 1) supply cs
  if left.rest.isEmpty || mapping.isSome then return String.ofList s else throw .wrongType

end Stencil.Value
