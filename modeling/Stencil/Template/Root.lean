import Stencil.Fault
import Stencil.Path
import Stencil.Text.Blank
/-!
# Names of templates

A template has a name of segments with points between them. Its file stands below the directory of
templates: each segment is one more component, and the last one carries the extension. A segment with
slashes counts as the path that it spells.
-/

namespace Stencil

/-- A directory of templates and the extension of their files. -/
structure TemplateRoot where
  directory : Path
  extension : String
deriving Repr, DecidableEq

namespace TemplateRoot

def standardExtension : String := ".tmpl"

/-- An extension with the point that it begins with; no extension stays none. -/
def pointed (extension : String) : String :=
  if extension = "" || extension.startsWith "." then extension else "." ++ extension

/-- The templates below a directory, whose path begins at a root or in the working directory: a home directory that
it was written with is already put in. -/
def make (directory : Path) (extension : String) : TemplateRoot := ⟨directory, pointed extension⟩

/-- The segments of a name, without white space around the name and without empty segments. -/
def segments (name : String) : List String :=
  let trimmed := Text.trim name.toList
  ((Text.splitOn ['.'] trimmed.length trimmed).map String.ofList).filter (· ≠ "")

def isComponent (s : String) : Bool :=
  let p := Path.ofText s
  p.root = .relative && p.parts.length = 1 && !s.endsWith "/"

def extend (p : Path) (extension : String) : Except Fault Path :=
  match p.name? with
  | none => .error (.badValue (.emptyName p.text))
  | some name =>
    if isComponent (name ++ extension) then
      .ok { p with parts := p.parts.dropLast ++ Path.partsOf (name ++ extension).toList }
    else .error (.badValue (.pathName (name ++ extension)))

def placeOf (p : Path) : Except Fault (List String) :=
  if p.parts.any fun part => part.contains '\x00' then .error (.badValue .nulInPath)
  else .ok p.place

def spelled (r : TemplateRoot) (segments : List String) : Path :=
  (segments.map Path.ofText).foldl Path.join r.directory

/-- The place of the file of a template. -/
def locate (r : TemplateRoot) (name : String) : Except Fault (List String) := do
  let found := segments name
  if found.isEmpty then .error (.badValue (.templateName (Text.quote name)))
  else
    let p ← extend (r.spelled found) r.extension
    placeOf p

end TemplateRoot

end Stencil
