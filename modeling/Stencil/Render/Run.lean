import Stencil.Json.Basic
import Stencil.Render.Session
import Stencil.Template.Instruction
/-!
# Rendering

The output of instructions under a scope. A literal stands for its text, an echo for the escaped text of
a value, a choice for the first arm whose condition is true, and a loop for its body once for each item,
under a scope that ends with the item. A field that is not a text where one is needed is a fault when it
is reached.
-/

namespace Stencil.Render

variable {σ ν : Type} {L : Language σ ν}

/-- The number of items that a collection may gain during a loop before the loop is given up. -/
def longestGrowth : Nat := 1000000

def fieldText : Json → Rendering L String
  | .str s => return s
  | _ => throw .wrongType

def evaluateField (scope : Scope ν) (expr : Json) : Rendering L ν := do
  Session.evaluate scope (← fieldText expr)

/-- A scope with the name that stands in a field bound. Lists and objects cannot be names at all, and
other values that are not texts spoil the scope. -/
def bindField (scope : Scope ν) (name : Json) (v : ν) : Rendering L (Scope ν) :=
  match name with
  | .str s => return scope.bind s v
  | .arr _ | .obj _ => throw .wrongType
  | _ => return scope.spoil

def bindPair (scope : Scope ν) (key : Option Json) (value : Json) (pair : ν × ν) :
    Rendering L (Scope ν) := do
  match key with
  | some name => do bindField (← bindField scope name pair.1) value pair.2
  | none => bindField scope value pair.2

/-- The outputs of a step for each pair that a cursor still gives, after the output so far. -/
def forEach (step : ν × ν → Rendering L String) : Nat → L.Cursor → String → Rendering L String
  | 0, _, _ => throw .tooDeep
  | fuel + 1, cursor, output => do
    match ← Session.lift (L.next cursor) with
    | none => return output
    | some (pair, cursor) => do
      let more ← step pair
      forEach step fuel cursor (output ++ more)

mutual

def run (scope : Scope ν) : Instruction Json → Rendering L String
  | .literal text => fieldText text
  | .echo expr => do
    let v ← evaluateField scope expr
    Session.lift (L.echo v)
  | .choose arms otherwise => do
    match ← runArms scope arms with
    | some output => return output
    | none => runOtherwise scope otherwise
  | .loop iterable key value body => do
    let v ← evaluateField scope iterable
    let cursor ← Session.lift (L.start v)
    let pending ← Session.lift (L.pending cursor)
    forEach (fun pair => do runAll (← bindPair scope key value pair) body) (pending + longestGrowth) cursor ""
  | .stray _ => throw .wrongType

def runArms (scope : Scope ν) : List (Arm Json) → Rendering L (Option String)
  | [] => return none
  | .mk cond body :: rest => do
    let v ← evaluateField scope cond
    if ← Session.lift (L.truth v) then return some (← runAll scope body) else runArms scope rest

def runOtherwise (scope : Scope ν) : Option (List (Instruction Json)) → Rendering L String
  | none => return ""
  | some body => runAll scope body

/-- The outputs of instructions, one after the other. -/
def runAll (scope : Scope ν) : List (Instruction Json) → Rendering L String
  | [] => return ""
  | i :: rest => do
    let output ← run scope i
    let more ← runAll scope rest
    return output ++ more

end

end Stencil.Render
