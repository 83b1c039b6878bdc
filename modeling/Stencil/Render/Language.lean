import Stencil.Fault
import Stencil.Scope
import Stencil.Text.Entity
/-!
# Expression languages

What rendering asks of the language of the expressions in a template. Its values may refer to a store
that evaluation changes.
-/

namespace Stencil

/-- A language whose values are `ν` over a store `σ`. A text compiles to code, code has a value under a
scope, a value counts as true or not and has a text, and a cursor steps through the pairs of key and
item of a value. How many pairs a cursor has yet to give may change while it steps. -/
structure Language (σ ν : Type) where
  Code : Type
  compile : String → Except Fault Code
  value : Code → Scope ν → EStateM Fault σ ν
  truth : ν → EStateM Fault σ Bool
  display : ν → EStateM Fault σ String
  Cursor : Type
  start : ν → EStateM Fault σ Cursor
  next : Cursor → EStateM Fault σ (Option ((ν × ν) × Cursor))
  pending : Cursor → EStateM Fault σ Nat

namespace Language

variable {σ ν : Type}

def echo (L : Language σ ν) (v : ν) : EStateM Fault σ String := do
  return String.ofList (Text.escape (← L.display v).toList)

end Language

end Stencil
