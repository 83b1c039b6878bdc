import Stencil.Fault
import Stencil.Tag.Argument
import Stencil.Text.Line
import Stencil.Text.Search
import Stencil.Tag.Rule
/-!
# Inclusion

An include is replaced by the text of the template it names, in which includes are replaced first. The
includes of a text are carried out from left to right, and what one brings in is not read again.
-/

namespace Stencil.Template

open Text Tag

def deepestNesting : Nat := 900

def includeMark : List Char := "@include(".toList

/-- The name that the argument of an include gives: quotes around it, and then white space, are left
out. -/
def includeName (argument : List Char) : String :=
  String.ofList (trim (stripEnds isQuote argument))

section

variable {m : Type → Type} [Monad m] [MonadExceptOf Fault m]

/-- The suffix `s` of a template with its includes replaced; `fetch` gives the complete text that a
name stands for. -/
def expandFrom (fetch : Option (String → m (List Char))) (template s : List Char) : m (List Char) :=
  match h : cut? includeMark s with
  | none => pure s
  | some (before, after) =>
    let line := lineAt template (includeMark ++ after)
    match ha : argument? after with
    | none => throw (.tag .endlessInclude line)
    | some (argument, rest) =>
      let name := includeName argument
      match fetch with
      | none => throw (.tag (.noResolver name) line)
      | some fetch => do
        have := length_of_cut? h
        have := length_of_argument? ha
        let inner ← fetch name
        let outer ← expandFrom fetch template rest
        pure (before ++ inner ++ outer)
termination_by s.length

def expandWithin (resolve : Option (String → m String)) : Nat → List Char → m (List Char)
  | 0, _ => throw .tooDeep
  | depth + 1, template =>
    let fetch := resolve.map fun resolve name => do
      let text ← resolve name
      expandWithin resolve depth text.toList
    expandFrom fetch template template

/-- A template with its includes replaced. -/
def expand (resolve : Option (String → m String)) (template : List Char) : m (List Char) :=
  expandWithin resolve deepestNesting template

end

end Stencil.Template
