import Stencil.Number.Reading
import Stencil.Text.Digit
import Stencil.Value.Format
/-!
# Layout of values

A layout says how a value fills its place in a text: a fill character and an alignment, a sign, a width, a
separator of thousands, a precision and a letter for the notation.
-/

namespace Stencil.Value

open Number

/-- A layout. Without a letter there is no notation in particular. -/
structure Layout where
  fill : Char
  align : Char
  sign : Option Char
  dropsSign : Bool
  alternate : Bool
  width : Nat
  grouping : Option Char
  precision : Option Nat
  letter : Option Char

/-- The type that a layout is for: its name, and the alignment and the letter that count when a layout
has none. -/
structure LayoutType where
  name : String
  align : Char
  letter : Option Char

def isAlign (c : Char) : Bool := c == '<' || c == '>' || c == '=' || c == '^'

def takeAlign (cs : List Char) : Option Char × Option Char × List Char :=
  match cs with
  | f :: a :: rest =>
    if isAlign a then (some f, some a, rest)
    else if isAlign f then (Option.none, some f, a :: rest)
    else (Option.none, Option.none, cs)
  | [a] => if isAlign a then (Option.none, some a, []) else (Option.none, Option.none, cs)
  | [] => (Option.none, Option.none, [])

def takeOne (p : Char → Bool) (cs : List Char) : Option Char × List Char :=
  match cs with
  | c :: rest => if p c then (some c, rest) else (Option.none, cs)
  | [] => (Option.none, [])

def takeNumber (cs : List Char) : Eval (Option Nat × List Char) :=
  let ds := cs.takeWhile Text.isDecimal
  let n : Nat := ofBase 10 (ds.filterMap Text.decimalValue?)
  if n > greatestWord then Eval.refuse "Too many decimal digits in format string"
  else return (if ds.isEmpty then Option.none else some n, cs.dropWhile Text.isDecimal)

def takeGrouping (cs : List Char) : Eval (Option Char × List Char) :=
  match cs with
  | ',' :: '_' :: _ | '_' :: ',' :: _ => Eval.refuse "Cannot specify both ',' and '_'."
  | _ => return takeOne (fun c => c == ',' || c == '_') cs

def shownLetter (c : Char) : String :=
  if 32 < c.toNat && c.toNat < 128 then String.singleton c
  else "\\x" ++ String.ofList (baseDigits 16 c.toNat)

def canGroup (sep : Char) (letter : Option Char) : Bool :=
  match letter with
  | Option.none => true
  | some c => "defgEG%F".toList.contains c || (sep == '_' && "boxX".toList.contains c)

def readLayout (type : LayoutType) (spec : List Char) : Eval Layout := do
  let (fill, align, cs) := takeAlign spec
  let (sign, cs) := takeOne (fun c => c == '+' || c == '-' || c == ' ') cs
  let (dropsSign, cs) := takeOne (· == 'z') cs
  let (alternate, cs) := takeOne (· == '#') cs
  let (zero, cs) := if fill.isSome then (Option.none, cs) else takeOne (· == '0') cs
  let (width, cs) ← takeNumber cs
  let (grouping, cs) ← takeGrouping cs
  let (precision, cs) ← match cs with
    | '.' :: rest => do
      let (p, rest) ← takeNumber rest
      if p.isNone then Eval.refuse "Format specifier missing precision" else pure (p, rest)
    | _ => pure (Option.none, cs)
  let letter ← match cs with
    | [] => pure type.letter
    | [c] => pure (some c)
    | _ => Eval.refuse ("Invalid format specifier '" ++ String.ofList spec ++ "' for object of type '" ++
        type.name ++ "'")
  let standard := if zero.isSome && type.align == '>' then '=' else type.align
  let l : Layout := ⟨(fill.or zero).getD ' ', align.getD standard, sign, dropsSign.isSome, alternate.isSome,
    width.getD 0, grouping, precision, letter⟩
  match grouping with
  | some sep =>
    if canGroup sep letter then return l
    else Eval.refuse ("Cannot specify '" ++ String.singleton sep ++ "' with '" ++
      (letter.map shownLetter).getD "" ++ "'.")
  | Option.none => return l

def unknownLetter {α : Type} (letter : Char) (type : LayoutType) : Eval α :=
  Eval.refuse ("Unknown format code '" ++ shownLetter letter ++ "' for object of type '" ++ type.name ++ "'")

def Layout.pad (l : Layout) (count : Nat) : List Char := List.replicate count l.fill

def Layout.text (l : Layout) (type : LayoutType) (s : String) : Eval (List Char) := do
  match l.letter with
  | some 's' =>
    if l.sign == some ' ' then Eval.refuse "Space not allowed in string format specifier"
    else if l.sign.isSome then Eval.refuse "Sign not allowed in string format specifier"
    else if l.dropsSign then
      Eval.refuse "Negative zero coercion (z) not allowed in string format specifier"
    else if l.alternate then Eval.refuse "Alternate form (#) not allowed in string format specifier"
    else if l.align == '=' then Eval.refuse "'=' alignment not allowed in string format specifier"
    else
      let cs := match l.precision with
        | some p => s.toList.take p
        | Option.none => s.toList
      let missing := l.width - cs.length
      let before := if l.align == '>' then missing else if l.align == '^' then missing / 2 else 0
      return l.pad before ++ cs ++ l.pad (missing - before)
  | some c => unknownLetter c type
  | Option.none => return []

/-- Digits, last first, in groups with a separator between them, brought to a width with zeros. -/
def groupReversed (sep : Char) (size : Nat) : Nat → Int → List Char → List Char
  | 0, _, ds => ds
  | fuel + 1, least, ds =>
    let count := min size (max (max ds.length least.toNat) 1)
    let group := ds.take count ++ List.replicate (count - ds.length) '0'
    let rest := ds.drop count
    let least := least - count
    if rest.isEmpty && least ≤ 0 then group else group ++ sep :: groupReversed sep size fuel (least - 1) rest

def Layout.grouped (l : Layout) (size least : Nat) (ds : List Char) : List Char :=
  match l.grouping with
  | some sep => (groupReversed sep size (ds.length + least) least ds.reverse).reverse
  | Option.none => padZeros least ds

/-- A number in a layout: its sign and a mark of its base, the digits that are grouped and what follows
them. -/
def Layout.number (l : Layout) (size : Nat) (lead ds rest : List Char) : List Char :=
  let others := lead.length + rest.length
  let least := if l.fill == '0' && l.align == '=' then l.width - others else 0
  let body := if ds.isEmpty then [] else l.grouped size least ds
  let missing := l.width - (others + body.length)
  match l.align with
  | '<' => lead ++ body ++ rest ++ l.pad missing
  | '^' => l.pad (missing / 2) ++ lead ++ body ++ rest ++ l.pad (missing - missing / 2)
  | '=' => lead ++ l.pad missing ++ body ++ rest
  | _ => l.pad missing ++ lead ++ body ++ rest

def Layout.signOf (l : Layout) (negative : Bool) : List Char :=
  if negative then ['-']
  else match l.sign with
    | some '+' => ['+']
    | some ' ' => [' ']
    | _ => []

/-- A floating point number with a precision and no letter: as with `g`, but with a digit after the point
whenever there is no exponent. -/
def plainReal (precision : Nat) (alternate : Bool) (x : Float) : List Char :=
  match kind x with
  | .finite b =>
    let cs := b.general 'e' precision (max precision 1 - 1) alternate
    let cs := if alternate then withPoint cs else cs
    if cs.contains 'e' then cs
    else if cs.contains '.' then (if cs.getLast? == some '.' then cs ++ ['0'] else cs)
    else cs ++ ['.', '0']
  | _ => realDigits 'g' precision alternate x

def Layout.realBody (l : Layout) (type : LayoutType) (x : Float) : Eval (List Char) := do
  match l.letter with
  | Option.none =>
    match l.precision with
    | Option.none =>
      let cs := floatChars x.abs
      return if l.alternate && (kind x matches .finite _) then withPoint cs else cs
    | some p => return plainReal p l.alternate x
  | some '%' => return realDigits 'f' (l.precision.getD 6) l.alternate (x * 100) ++ ['%']
  | some 'n' => return realDigits 'g' (l.precision.getD 6) l.alternate x
  | some c =>
    if "eEfFgG".toList.contains c then return realDigits c (l.precision.getD 6) l.alternate x
    else unknownLetter c type

def Layout.real (l : Layout) (type : LayoutType) (x : Float) : Eval (List Char) := do
  let body ← l.realBody type x
  let isZero := l.dropsSign && (kind x matches .finite _) && !body.any fun c => '1' ≤ c && c ≤ '9'
  let sign := l.signOf (isNegative x && !isNaN x && !isZero)
  return l.number 3 sign (body.takeWhile isAsciiDigit) (body.dropWhile isAsciiDigit)

def Layout.integer (l : Layout) (letter : Char) (n : Int) : Eval (List Char) := do
  let sign := l.signOf (n < 0)
  let based (base : Nat) : Eval (List Char) :=
    let lead := if l.alternate then ['0', letter] else []
    let ds := baseDigits base n.natAbs
    return l.number 4 (sign ++ lead) (if letter == 'X' then ds.map Char.toUpper else ds) []
  if l.precision.isSome then Eval.refuse "Precision not allowed in integer format specifier"
  else if l.dropsSign then
    Eval.refuse "Negative zero coercion (z) not allowed in integer format specifier"
  else
    match letter with
    | 'b' => based 2
    | 'o' => based 8
    | 'x' | 'X' => based 16
    | 'c' =>
      if l.sign.isSome then Eval.refuse "Sign not allowed with integer format specifier 'c'"
      else if l.alternate then
        Eval.refuse "Alternate form (#) not allowed with integer format specifier 'c'"
      else if 0 ≤ n && n < 0x110000 then return l.number 3 [] [] [Char.ofNat n.toNat]
      else throw .overflow
    | _ => return l.number 3 sign (← integerText n.natAbs).toList []

def Layout.whole (l : Layout) (type : LayoutType) (n : Int) : Eval (List Char) := do
  match l.letter with
  | some c =>
    if "bcdoxXn".toList.contains c then l.integer c n
    else if "eEfFgG%".toList.contains c then
      match ofInt? n with
      | some x => l.real type x
      | Option.none => throw .overflow
    else unknownLetter c type
  | Option.none => return []

def laidOut (v : Value) (spec : List Char) : Eval (List Char) := do
  if spec.isEmpty then return (← display v).toList
  else
    match v, v.text?, v.int? with
    | float x, _, _ => do
      let type : LayoutType := ⟨v.typeName, '>', Option.none⟩
      (← readLayout type spec).real type x
    | _, some s, _ => do
      let type : LayoutType := ⟨v.typeName, '<', some 's'⟩
      (← readLayout type spec).text type s
    | _, _, some n => do
      let type : LayoutType := ⟨v.typeName, '>', some 'd'⟩
      (← readLayout type spec).whole type n
    | _, _, _ => throw .wrongType

end Stencil.Value
