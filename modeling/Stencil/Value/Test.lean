import Stencil.Text.Case
import Stencil.Value.Access
import Stencil.Value.Arguments
import Stencil.Value.Arithmetic
/-!
# Tests

The questions that can be asked about a value by name.
-/

namespace Stencil.Value

open Arguments

def testNames : List String := ["!=", "<", "<=", "==", ">", ">=", "boolean", "callable", "defined",
  "divisibleby", "eq", "equalto", "escaped", "even", "false", "float", "ge", "greaterthan", "gt", "in",
  "integer", "iterable", "le", "lessthan", "lower", "lt", "mapping", "ne", "none", "number", "odd",
  "sameas", "sequence", "string", "true", "undefined", "upper"]

def plainTest? (name : String) (v : Value) : Option Bool :=
  match name, v with
  | "defined", absent .. => some false
  | "defined", _ => some true
  | "undefined", absent .. => some true
  | "undefined", _ => some false
  | "none", none => some true
  | "none", _ => some false
  | "boolean", bool _ => some true
  | "boolean", _ => some false
  | "true", bool b => some b
  | "true", _ => some false
  | "false", bool b => some !b
  | "false", _ => some false
  | "integer", int _ => some true
  | "integer", _ => some false
  | "float", float _ => some true
  | "float", _ => some false
  | "string", _ => some v.text?.isSome
  | "escaped", safe _ => some true
  | "escaped", _ => some false
  | "mapping", dict _ => some true
  | "mapping", _ => some false
  | "number", .other "complex" => some true
  | "number", _ => some v.numeric?.isSome
  | "callable", absent .. | "callable", outside _ | "callable", function _ | "callable", method .. =>
    some true
  | "callable", _ => some false
  | "sequence", text _ | "sequence", safe _ | "sequence", bytes _ | "sequence", tuple _
  | "sequence", list _ | "sequence", dict _ | "sequence", range .. => some true
  | "sequence", absent _ lenient => some lenient
  | "sequence", _ => some false
  | _, _ => Option.none

def isIterable (v : Value) : Eval Bool :=
  match v with
  | text _ | safe _ | bytes _ | tuple _ | list _ | dict _ | range .. | stream _ | view .. => return true
  | absent why lenient => if lenient then return true else throw (absenceFault why)
  | _ => return false

def remainderIs (v divisor : Value) (n : Int) : Eval Bool := do
  equal (← operate .remainder v divisor) (int n)

def relationTest? (name : String) (v w : Value) : Option (Eval Bool) :=
  match name with
  | "==" | "eq" | "equalto" => some (equal v w)
  | "!=" | "ne" => some do return !(← equal v w)
  | "<" | "lt" | "lessthan" => some (ordered (· == .lt) v w)
  | "<=" | "le" => some (ordered (· != .gt) v w)
  | ">" | "gt" | "greaterthan" => some (ordered (· == .gt) v w)
  | ">=" | "ge" => some (ordered (· != .lt) v w)
  | "in" => some (contains w v)
  | "sameas" => some (return identical v w)
  | "divisibleby" => some (remainderIs v w 0)
  | _ => Option.none

/-- The name of the parameter of a test with one argument, where it may be given by name. -/
def relationParameter (name : String) : Option String :=
  match name with
  | "in" => some "seq"
  | "sameas" => some "other"
  | "divisibleby" => some "num"
  | _ => Option.none

def test (name : String) (v : Value) (a : Arguments) : Eval Bool := do
  if !testNames.contains name then throw (.lateEntry .tests name)
  else
    match plainTest? name v with
    | some answer =>
      let _ ← a.placed []
      return answer
    | Option.none =>
      match name with
      | "odd" => let _ ← a.placed []; remainderIs v (int 2) 1
      | "even" => let _ ← a.placed []; remainderIs v (int 2) 0
      | "lower" => let _ ← a.placed []; return Text.isLower (← display v).toList
      | "upper" => let _ ← a.placed []; return Text.isUpper (← display v).toList
      | "iterable" => let _ ← a.placed []; isIterable v
      | _ =>
        let given ← match relationParameter name with
          | some parameter => a.bind [needed parameter]
          | Option.none => a.placed [needed ""]
        match given with
        | [w] => (relationTest? name v w).getD (throw .wrongType)
        | _ => throw .wrongType

end Stencil.Value
