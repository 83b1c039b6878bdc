import Stencil.Render.Language
import Stencil.Value.Cursor
import Stencil.Value.Display
/-!
# Evaluators

Expressions over values may be read and evaluated in any way. What a value counts as, what text it has and
what a loop goes through do not depend on that way.
-/

namespace Stencil

/-- A way to read expressions and to evaluate them. -/
structure Evaluator where
  Code : Type
  compile : String → Except Fault Code
  value : Code → Scope Value → Eval Value

def Value.output : Value → Eval String
  | .none => return ""
  | v => v.display

namespace Evaluator

def language (E : Evaluator) : Language Store Value where
  Code := E.Code
  compile := E.compile
  value := E.value
  truth := Value.truth
  display := Value.output
  Cursor := Value.Cursor
  start := Value.start
  next := Value.Cursor.next
  pending := Value.Cursor.pending

end Evaluator

end Stencil
