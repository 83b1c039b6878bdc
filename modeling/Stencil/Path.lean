import Stencil.Text.Search
/-!
# Paths

A path is a list of components after a root of no, one or two slashes. Empty components and single
points count for nothing, and a path that begins at a root starts anew when it is joined to another.
-/

namespace Stencil

/-- The slashes that a path begins with. More than two count as one. -/
inductive PathRoot where
  | relative
  | one
  | two
deriving Repr, DecidableEq

structure Path where
  root : PathRoot
  parts : List String
deriving Repr, DecidableEq

namespace Path

def rootOf (text : List Char) : PathRoot :=
  match (text.takeWhile (· == '/')).length with
  | 0 => .relative
  | 2 => .two
  | _ => .one

def partsOf (text : List Char) : List String :=
  ((Text.splitOn ['/'] text.length text).map String.ofList).filter fun part => part ≠ "" && part ≠ "."

def ofText (text : String) : Path := ⟨rootOf text.toList, partsOf text.toList⟩

def endsInPart (text : List Char) : Bool :=
  match (Text.splitOn ['/'] text.length text).getLast? with
  | some last => last ≠ [] && last ≠ ['.']
  | none => false

def join (p q : Path) : Path :=
  match q.root with
  | .relative => { p with parts := p.parts ++ q.parts }
  | _ => q

def rootText : PathRoot → String
  | .relative => ""
  | .one => "/"
  | .two => "//"

def text (p : Path) : String :=
  if p.root = .relative && p.parts.isEmpty then "."
  else rootText p.root ++ String.intercalate "/" p.parts

def name? (p : Path) : Option String := p.parts.getLast?

def step (place : List String) (part : String) : List String :=
  if part = ".." then place.dropLast else place ++ [part]

/-- The place of a path: its components from the root, with each pair of points taking back the component
before it. A relative path counts from the root. -/
def place (p : Path) : List String := p.parts.foldl step []

def ofPlace (place : List String) : Path := ⟨.one, place⟩

end Path

end Stencil
