import Stencil.Expression.Check
import Stencil.Expression.Evaluate
import Stencil.Expression.Parser
import Stencil.Expression.Sigil
import Stencil.Value.Evaluator
/-!
# The language of expressions

Expressions as a language for rendering: an expression is compiled once its sigils are dropped and all
names of filters and tests are known.
-/

namespace Stencil.Expression

/-- What an expression compiles to. -/
def compile (text : String) : Except Fault Expr := do
  let e ← parse (stripSigils text.toList)
  match nameFault? e with
  | some fault => .error fault
  | none => .ok e

def value (e : Expr) (scope : Scope Value) : Eval Value :=
  if scope.spoiled then throw .wrongType else evaluate scope e

def evaluator : Evaluator := ⟨Expr, compile, value⟩

abbrev language : Language Store Value := evaluator.language

end Stencil.Expression
