import Stencil.Fault
import Stencil.Json.Basic
import Stencil.Number.Reading
import Stencil.Text.Lead
/-!
# Reading JSON

The text of one value with white space around it. Beside the standard forms the names of the values
that are not finite are read; of the fields with one key the last value counts.
-/

namespace Stencil.Json

open Text

def isGap (c : Char) : Bool := c == ' ' || c == '\n' || c == '\r' || c == '\t'

def dropGap (cs : List Char) : List Char := cs.dropWhile isGap

def hexValue? (c : Char) : Option Nat := (baseValue? c).filter fun d => d < 16 && c.toNat < 128

def hexFour? : List Char → Option (Nat × List Char)
  | a :: b :: c :: d :: rest => do
    let a ← hexValue? a
    let b ← hexValue? b
    let c ← hexValue? c
    let d ← hexValue? d
    some (((a * 16 + b) * 16 + c) * 16 + d, rest)
  | _ => none

def lowHalf? (cs : List Char) : Option (Nat × List Char) :=
  match cs with
  | '\\' :: 'u' :: rest => (hexFour? rest).filter fun (n, _) => 0xDC00 ≤ n && n ≤ 0xDFFF
  | _ => none

def numbered? (cs : List Char) : Option (Char × List Char) := do
  let (n, rest) ← hexFour? cs
  if 0xD800 ≤ n && n ≤ 0xDBFF then
    match lowHalf? rest with
    | some (low, rest) => some (Char.ofNat (0x10000 + (n - 0xD800) * 0x400 + (low - 0xDC00)), rest)
    | none => some (Char.ofNat 0xFFFD, rest)
  else if 0xDC00 ≤ n && n ≤ 0xDFFF then some (Char.ofNat 0xFFFD, rest)
  else some (Char.ofNat n, rest)

def escaped? : Char → Option Char
  | '"' => some '"'
  | '\\' => some '\\'
  | '/' => some '/'
  | 'b' => some (Char.ofNat 8)
  | 'f' => some (Char.ofNat 12)
  | 'n' => some '\n'
  | 'r' => some '\r'
  | 't' => some '\t'
  | _ => none

def readChar? : List Char → Option (Char × List Char)
  | '\\' :: 'u' :: rest => numbered? rest
  | '\\' :: c :: rest => (escaped? c).map (·, rest)
  | '\\' :: [] => none
  | c :: rest => if c.toNat < 32 then none else some (c, rest)
  | [] => none

/-- The rest of a string after its opening quote, read in at most `fuel` steps, and what follows
it. -/
def readStringWith : Nat → List Char → Option (List Char × List Char)
  | 0, _ => none
  | fuel + 1, cs =>
    match cs with
    | '"' :: rest => some ([], rest)
    | _ => do
      let (c, rest) ← readChar? cs
      let (s, rest) ← readStringWith fuel rest
      some (c :: s, rest)

def readString (cs : List Char) : Except Fault (String × List Char) :=
  match readStringWith (cs.length + 1) cs with
  | some (s, rest) => .ok (String.ofList s, rest)
  | none => .error .malformedJson

def takeAscii (cs : List Char) : List Char × List Char :=
  (cs.takeWhile Number.isAsciiDigit, cs.dropWhile Number.isAsciiDigit)

def takePlaces (cs : List Char) : List Char × List Char :=
  match cs with
  | '.' :: rest =>
    match takeAscii rest with
    | ([], _) => ([], cs)
    | taken => taken
  | _ => ([], cs)

def takePower (cs : List Char) : Option Int × List Char :=
  match cs with
  | c :: rest =>
    if c == 'e' || c == 'E' then
      let (negative, rest) := Number.takeSign rest
      match takeAscii rest with
      | ([], _) => (none, cs)
      | (ds, rest) =>
        let n : Nat := Number.ofDigits ds
        (some (if negative then -(n : Int) else n), rest)
    else (none, cs)
  | [] => (none, [])

/-- The whole part of a number: a zero, or digits that do not begin with one. -/
def takeWhole (cs : List Char) : List Char × List Char :=
  match cs with
  | '0' :: rest => (['0'], rest)
  | _ => takeAscii cs

def readNumber (negative : Bool) (cs : List Char) : Except Fault (Json × List Char) :=
  match takeWhole cs with
  | ([], _) => .error .malformedJson
  | (whole, rest) =>
    match takePlaces rest with
    | (places, rest) =>
      match takePower rest with
      | (power, rest) =>
        if places.isEmpty && power.isNone then
          if whole.length > Number.digitLimit then
            .error (.badValue (.longInteger whole.length))
          else
            let n : Nat := Number.ofDigits whole
            .ok (.int (if negative then -(n : Int) else n), rest)
        else
          let ds := (whole ++ places).map Number.digitValue
          .ok (.float (Number.ofDecimal negative ds (power.getD 0 - places.length)), rest)

def words : List (List Char × Json) := [
  ("null".toList, .null), ("true".toList, .bool true), ("false".toList, .bool false),
  ("NaN".toList, .float Number.notANumber), ("Infinity".toList, .float (Number.infinity false)),
  ("-Infinity".toList, .float (Number.infinity true))]

def readSimple (cs : List Char) : Except Fault (Json × List Char) :=
  match words.findSome? fun (word, value) => (after? word cs).map (value, ·) with
  | some found => .ok found
  | none =>
    match cs with
    | '-' :: rest => readNumber true rest
    | _ => readNumber false cs

def readKey (cs : List Char) : Except Fault (String × List Char) :=
  match cs with
  | '"' :: rest => do
    let (key, rest) ← readString rest
    match dropGap rest with
    | ':' :: rest => .ok (key, dropGap rest)
    | _ => .error .malformedJson
  | _ => .error .malformedJson

mutual

/-- The value at the beginning of a text, and the text after it. There is room for so many brackets that
are open at once. -/
def readValue : (room fuel : Nat) → List Char → Except Fault (Json × List Char)
  | _, 0, _ => .error .malformedJson
  | room, fuel + 1, cs =>
    match cs with
    | '"' :: rest => do
      let (s, rest) ← readString rest
      .ok (.str s, rest)
    | '[' :: rest => do
      let room ← nest room
      match dropGap rest with
      | ']' :: rest => .ok (.arr [], rest)
      | rest => do
        let (items, rest) ← readItems room fuel rest
        .ok (.arr items, rest)
    | '\x7b' :: rest => do
      let room ← nest room
      match dropGap rest with
      | '\x7d' :: rest => .ok (.obj [], rest)
      | rest => do
        let (fields, rest) ← readFields room fuel [] rest
        .ok (.obj fields, rest)
    | _ => readSimple cs

def readItems : (room fuel : Nat) → List Char → Except Fault (List Json × List Char)
  | _, 0, _ => .error .malformedJson
  | room, fuel + 1, cs => do
    let (v, rest) ← readValue room fuel cs
    match dropGap rest with
    | ']' :: rest => .ok ([v], rest)
    | ',' :: rest => do
      let (items, rest) ← readItems room fuel (dropGap rest)
      .ok (v :: items, rest)
    | _ => .error .malformedJson

/-- The fields of an object, at least one, put after those already read, and the text after the
closing brace. -/
def readFields : (room fuel : Nat) → List (String × Json) → List Char →
    Except Fault (List (String × Json) × List Char)
  | _, 0, _, _ => .error .malformedJson
  | room, fuel + 1, fields, cs => do
    let (key, rest) ← readKey cs
    let (v, rest) ← readValue room fuel rest
    let fields := putField key v fields
    match dropGap rest with
    | '\x7d' :: rest => .ok (fields, rest)
    | ',' :: rest => readFields room fuel fields (dropGap rest)
    | _ => .error .malformedJson

end

def readWithin (room : Nat) (cs : List Char) : Except Fault Json := do
  let (v, rest) ← readValue room (2 * cs.length + 2) (dropGap cs)
  if (dropGap rest).isEmpty then .ok v else .error .malformedJson

def read (cs : List Char) : Except Fault Json := readWithin callRoom cs

end Stencil.Json
