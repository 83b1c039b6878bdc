import Stencil.Json.Basic
import Stencil.Number.Notation
import Stencil.Text.Quoted
/-!
# Canonical JSON text

A value is written without spaces and with the keys of each object in the order of their code points,
so its text depends on the value alone. Only quotes, backslashes and control characters are escaped.
-/

namespace Stencil.Json

def escapeChar (c : Char) : List Char :=
  if c = '"' then ['\\', '"']
  else if c = '\\' then ['\\', '\\']
  else if c = '\n' then ['\\', 'n']
  else if c = '\r' then ['\\', 'r']
  else if c = '\t' then ['\\', 't']
  else if c = Char.ofNat 8 then ['\\', 'b']
  else if c = Char.ofNat 12 then ['\\', 'f']
  else if c.toNat < 32 then '\\' :: 'u' :: Text.hexDigits 4 c.toNat
  else [c]

def writeString (s : String) : List Char := '"' :: (s.toList.flatMap escapeChar ++ ['"'])

/-- A floating point number; the values that are not finite have names. -/
def writeFloat (x : Float) : List Char :=
  match Number.kind x with
  | .notANumber => "NaN".toList
  | .infinite negative => (if negative then "-Infinity" else "Infinity").toList
  | .finite _ => Number.floatChars x

def withCommas : List (List Char) → List Char
  | [] => []
  | [s] => s
  | s :: rest => s ++ ',' :: withCommas rest

def sortFields {α : Type} (fields : List (String × α)) : List (String × α) :=
  fields.mergeSort fun a b => !(b.1 < a.1)

def writeField (field : String × List Char) : List Char := writeString field.1 ++ ':' :: field.2

mutual

/-- The canonical text of a value. -/
def write : Json → List Char
  | null => "null".toList
  | bool true => "true".toList
  | bool false => "false".toList
  | int n => Number.signed n
  | float x => writeFloat x
  | str s => writeString s
  | arr items => '[' :: (withCommas (writeItems items) ++ [']'])
  | obj fields =>
    Char.ofNat 123 :: (withCommas ((sortFields (writeValues fields)).map writeField) ++ [Char.ofNat 125])

def writeItems : List Json → List (List Char)
  | [] => []
  | v :: rest => write v :: writeItems rest

def writeValues : List (String × Json) → List (String × List Char)
  | [] => []
  | (key, v) :: rest => (key, write v) :: writeValues rest

end

def text (v : Json) : String := String.ofList (write v)

end Stencil.Json
