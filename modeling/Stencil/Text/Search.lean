import Stencil.Text.Lead
/-!
# Searching in texts

Occurrences of one text in another, found from the left and without overlap, and what is built on
them: splitting, joining, replacing and counting.
-/

namespace Stencil.Text

def cut? (sub : List Char) : List Char → Option (List Char × List Char)
  | [] => if sub.isEmpty then some ([], []) else none
  | c :: rest =>
    match after? sub (c :: rest) with
    | some after => some ([], after)
    | none => (cut? sub rest).map fun (before, after) => (c :: before, after)

/-- The pieces of a text between occurrences of a non-empty separator, at most `limit` cuts. -/
def splitOn (sub : List Char) : Nat → List Char → List (List Char)
  | 0, s => [s]
  | limit + 1, s =>
    match cut? sub s with
    | none => [s]
    | some (before, after) => before :: splitOn sub limit after

/-- The pieces of a text between runs of characters of a class, at most `limit` cuts; no piece is
empty, and the last piece of a limited split keeps its inner and final characters. -/
def splitRuns (p : Char → Bool) : Nat → List Char → List (List Char)
  | 0, s =>
    let s := s.dropWhile p
    if s.isEmpty then [] else [s]
  | limit + 1, s =>
    let s := s.dropWhile p
    if s.isEmpty then []
    else s.takeWhile (!p ·) :: splitRuns p limit (s.dropWhile (!p ·))

def joinWith (sep : List Char) : List (List Char) → List Char
  | [] => []
  | [s] => s
  | s :: rest => s ++ sep ++ joinWith sep rest

/-- `sub` put before each of the first `limit` characters, and at the end if the limit allows. -/
def interleave (sub : List Char) : Nat → List Char → List Char
  | 0, s => s
  | _ + 1, [] => sub
  | limit + 1, c :: rest => sub ++ c :: interleave sub limit rest

/-- At most `limit` occurrences of `old` replaced by `new`, from the left. An empty `old` occurs
before every character and at the end. -/
def replace (old new : List Char) (limit : Nat) (s : List Char) : List Char :=
  if old.isEmpty then interleave new limit s else joinWith new (splitOn old limit s)

/-- The number of occurrences of `sub`; an empty one occurs around every character. -/
def countOf (sub s : List Char) : Nat :=
  if sub.isEmpty then s.length + 1 else (splitOn sub s.length s).length - 1

def find? (sub s : List Char) : Option Nat := (cut? sub s).map (·.1.length)

end Stencil.Text
