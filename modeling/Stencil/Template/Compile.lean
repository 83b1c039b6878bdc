import Stencil.Json.Reader
import Stencil.Json.Writer
import Stencil.Template.Artifact
import Stencil.Template.Inclusion
import Stencil.Template.Tree
/-!
# Compiled templates

A template is compiled in two passes: includes are replaced, then the pieces of the resulting text are
put together. The artifact is the canonical text of the tree.
-/

namespace Stencil.Template

/-- What includes are resolved with: the text that a name stands for. -/
abbrev Resolver := Option (String → Except Fault String)

/-- The tree of a template. -/
def parseText (resolve : Resolver) (text : String) : Except Fault Body := do
  let expanded ← expand resolve text.toList
  parse expanded

def fields (body : Body) : List (Instruction Json) := Instruction.mapAll .str body

/-- The artifact of a tree. -/
def dump (body : List (Instruction Json)) : String := (toJson body).text

def dumpWithin (room : Nat) (body : List (Instruction Json)) : Except Fault String :=
  if (toJson body).depth ≤ room then .ok (dump body) else .error .tooDeep

def loadWithin (room : Nat) (artifact : String) : Except Fault (List (Instruction Json)) := do
  let data ← Json.readWithin room artifact.toList
  ofJson room data

def load (artifact : String) : Except Fault (List (Instruction Json)) :=
  loadWithin callRoom artifact

/-- The artifact of a template. -/
def compile (resolve : Resolver) (text : String) : Except Fault String := do
  let body ← parseText resolve text
  dumpWithin callRoom (fields body)

end Stencil.Template
