import Stencil.Expression.Syntax
import Stencil.Scope
import Stencil.Value.Filter
/-!
# Evaluating expressions

The value of an expression under a scope. Parts are evaluated from left to right, and of a condition, an
alternative or a chain of comparisons no more than is needed.
-/

namespace Stencil.Expression

open Value (Arguments)

def standard? : String → Option Value
  | "range" => some (.function "range")
  | "dict" => some (.function "dict")
  | "cycler" => some (.other "type")
  | "joiner" => some (.other "type")
  | "namespace" => some (.other "type")
  | "lipsum" => some (.other "function")
  | _ => none

def resolve (scope : Scope Value) (name : String) : Value :=
  if name = "self" then .other "TemplateReference"
  else ((scope.find? name).or (standard? name)).getD (.absent (.name name) false)

def literalValue : Literal → Value
  | .none => .none
  | .bool b => .bool b
  | .int n => .int n
  | .float x => .float x
  | .text s => .text s

def compareValues (c : Comparison) (a b : Value) : Eval Bool := do
  match c with
  | .equal => Value.equal a b
  | .different => return !(← Value.equal a b)
  | .less => Value.ordered (· == .lt) a b
  | .lessEqual => Value.ordered (· != .gt) a b
  | .greater => Value.ordered (· == .gt) a b
  | .greaterEqual => Value.ordered (· != .lt) a b
  | .isIn => b.contains a
  | .notIn => return !(← b.contains a)

def makeEntries : List (Value × Value) → List (Value × Value) → Eval (List (Value × Value))
  | entries, [] => return entries
  | entries, (key, v) :: rest => do
    Value.checkKey key
    makeEntries (Value.insert key v entries) rest

def addNamed (a : Arguments) (name : String) (v : Value) : Eval Arguments :=
  if (a.names.lookup name).isSome then throw .wrongType
  else return { a with names := a.names ++ [(name, v)] }

def addEntries : Arguments → List (Value × Value) → Eval Arguments
  | a, [] => return a
  | a, (key, v) :: rest => do
    match key.text? with
    | some name => addEntries (← addNamed a name v) rest
    | none => throw .wrongType

mutual

/-- The value of an expression. -/
def evaluate (scope : Scope Value) : Expr → Eval Value
  | .literal v => return literalValue v
  | .name n => return resolve scope n
  | .list items => do Eval.newList (← evaluateAll scope items)
  | .tuple items => do return .tuple (← evaluateAll scope items)
  | .dict entries => do
    let found ← evaluateEntries scope entries
    return .dict (← Eval.alloc (.dict (← makeEntries [] found)))
  | .member e name => do (← evaluate scope e).memberOf name
  | .item e key => do
    let v ← evaluate scope e
    v.subscript (← evaluate scope key)
  | .slice e start stop step => do
    let v ← evaluate scope e
    let start ← evaluateOption scope start
    let stop ← evaluateOption scope stop
    let step ← evaluateOption scope step
    v.slice start stop step
  | .call e args => do
    let f ← evaluate scope e
    f.call (← evaluateArgs scope ⟨[], []⟩ args)
  | .filter e name args => do
    let v ← evaluate scope e
    Value.filter name v (← evaluateArgs scope ⟨[], []⟩ args)
  | .test e name args => do
    let v ← evaluate scope e
    return .bool (← Value.test name v (← evaluateArgs scope ⟨[], []⟩ args))
  | .signed sign e => do Value.signed sign (← evaluate scope e)
  | .binary op left right => do
    let a ← evaluate scope left
    Value.operate op a (← evaluate scope right)
  | .concat items => do
    let parts ← (← evaluateAll scope items).mapM Value.display
    return .text (String.join parts)
  | .compare e links => do compareChain scope (← evaluate scope e) links
  | .both left right => do
    let a ← evaluate scope left
    if ← a.truth then evaluate scope right else return a
  | .either left right => do
    let a ← evaluate scope left
    if ← a.truth then return a else evaluate scope right
  | .negate e => do return .bool !(← (← evaluate scope e).truth)
  | .choose cond yes no line => do
    if ← (← evaluate scope cond).truth then evaluate scope yes
    else
      match no with
      | some e => evaluate scope e
      | none => return .absent (.because ("the inline if-expression on line " ++ decimal line ++
          " evaluated to false and no else section was defined.")) true

def evaluateOption (scope : Scope Value) : Option Expr → Eval Value
  | some e => evaluate scope e
  | none => return .none

def evaluateAll (scope : Scope Value) : List Expr → Eval (List Value)
  | [] => return []
  | e :: rest => do
    let v ← evaluate scope e
    return v :: (← evaluateAll scope rest)

def evaluateEntries (scope : Scope Value) : List Entry → Eval (List (Value × Value))
  | [] => return []
  | .mk key value :: rest => do
    let k ← evaluate scope key
    let v ← evaluate scope value
    return (k, v) :: (← evaluateEntries scope rest)

def evaluateArgs (scope : Scope Value) (a : Arguments) : List Arg → Eval Arguments
  | [] => return a
  | .plain e :: rest => do
    let v ← evaluate scope e
    evaluateArgs scope { a with places := a.places ++ [v] } rest
  | .named name e :: rest => do
    let v ← evaluate scope e
    evaluateArgs scope (← addNamed a name v) rest
  | .spread e :: rest => do
    let v ← evaluate scope e
    evaluateArgs scope { a with places := a.places ++ (← v.items) } rest
  | .spreadNamed e :: rest => do
    match ← evaluate scope e with
    | .dict cell => evaluateArgs scope (← addEntries a (← Eval.dictAt cell)) rest
    | .absent why _ => throw (.absent why)
    | _ => throw .wrongType

def compareChain (scope : Scope Value) (a : Value) : List Link → Eval Value
  | [] => return .bool true
  | .mk c e :: rest => do
    let b ← evaluate scope e
    if ← compareValues c a b then compareChain scope b rest else return .bool false

end

end Stencil.Expression
