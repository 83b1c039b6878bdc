import Stencil.Text.Blank
import Stencil.Text.Lead
import Stencil.Text.Word
/-!
# Arguments of loops

The argument of a loop names what it goes through, then the word `as`, then its variable, before which
a variable for the key may stand. A variable may be marked with a dollar sign, which is dropped.
-/

namespace Stencil.Tag

open Text

/-- What a loop goes through and the names it binds. -/
structure LoopHead where
  iterable : List Char
  key : Option (List Char)
  value : List Char
deriving Repr, DecidableEq

def afterBlanks? : List Char → Option (List Char)
  | c :: rest => if isBlank c then some (dropBlanks rest) else none
  | [] => none

def plainName? : List Char → Option (List Char × List Char)
  | c :: rest =>
    if isNameStart c then some (c :: rest.takeWhile isWord, rest.dropWhile isWord) else none
  | [] => none

def marked? : List Char → Option (List Char × List Char)
  | '$' :: rest => plainName? rest
  | s => plainName? s

def atEnd (s : List Char) : Bool := s == [] || s == ['\n']

def wholeMarked? (s : List Char) : Option (List Char) :=
  match marked? s with
  | some (name, rest) => if atEnd rest then some name else none
  | none => none

/-- The variables of a loop: a key, an arrow and a value, or the value alone. -/
def loopNames? (s : List Char) : Option (Option (List Char) × List Char) :=
  let keyed := do
    let (key, rest) ← marked? s
    let rest ← after? ['=', '>'] (dropBlanks rest)
    let value ← wholeMarked? (dropBlanks rest)
    some (some key, value)
  match keyed with
  | some names => some names
  | none => (wholeMarked? s).map (none, ·)

def loopTail? (s : List Char) : Option (Option (List Char) × List Char) := do
  let rest ← afterBlanks? s
  let rest ← after? ['a', 's'] rest
  let rest ← afterBlanks? rest
  loopNames? rest

def splitLoop? : List Char → Option (List Char × Option (List Char) × List Char)
  | [] => none
  | c :: rest =>
    match loopTail? rest with
    | some (key, value) => some ([c], key, value)
    | none => (splitLoop? rest).map fun (iterable, names) => (c :: iterable, names)

def loopHead? (argument : List Char) : Option LoopHead :=
  (splitLoop? argument).map fun (iterable, key, value) => ⟨trim iterable, key, value⟩

end Stencil.Tag
