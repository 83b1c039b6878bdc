import Stencil.Scope
import Stencil.Template.Substitution
import Stencil.Value.Display
/-!
# Values in slots

Plain templates filled with the texts of values.
-/

namespace Stencil.Value

/-- The text for a key. An unknown key has none, nor has a key without a value. -/
def slotText (scope : Scope Value) (key : String) : Eval (Option String) := do
  match scope.find? key with
  | Option.none | some none => return Option.none
  | some v => return some (← v.display)

/-- A plain template with its slots filled. -/
def fillSlots (scope : Scope Value) (text : String) : Eval String := do
  return String.ofList (← Template.substitute (slotText scope) text.toList)

end Stencil.Value
