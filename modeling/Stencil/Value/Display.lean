import Stencil.Number.Notation
import Stencil.Text.Quoted
import Stencil.Value.Basic
/-!
# Texts of values

The text of a value, and the form in which it is shown inside a container, where a text stands in
quotes. A container that holds itself is cut short.
-/

namespace Stencil.Value

def integerText (n : Int) : Eval String :=
  if Number.tooLong n then throw (.badValue .longIntegerText)
  else return String.ofList (Number.signed n)

def rangeText (start stop step : Int) : String :=
  let parts := if step == 1 then [start, stop] else [start, stop, step]
  "range(" ++ String.intercalate ", " (parts.map fun n => String.ofList (Number.signed n)) ++ ")"

def viewWord : ViewKind → String
  | .keys => "dict_keys"
  | .values => "dict_values"
  | .entries => "dict_items"

def commas (parts : List String) : String := String.intercalate ", " parts

/-- A value as it is shown inside a container, nested at most so deep and inside the given cells. -/
def shownWithin : Nat → List Nat → Value → Eval String
  | 0, _, _ => throw .tooDeep
  | depth + 1, inside, v => do
    match v with
    | none => return "None"
    | bool b => return if b then "True" else "False"
    | int n => integerText n
    | float x => return Number.floatText x
    | text s => return Text.quote s
    | safe s => return "Markup(" ++ Text.quote s ++ ")"
    | bytes bs => return Text.quoteBytes bs
    | tuple [item] => return "(" ++ (← shownWithin depth inside item) ++ ",)"
    | tuple items => return "(" ++ commas (← items.mapM (shownWithin depth inside)) ++ ")"
    | list cell =>
      if inside.contains cell then return "[...]"
      else
        let items ← Eval.listAt cell
        return "[" ++ commas (← items.toList.mapM (shownWithin depth (cell :: inside))) ++ "]"
    | dict cell =>
      if inside.contains cell then return "\x7b...\x7d"
      else
        let parts ← (← Eval.dictAt cell).mapM fun (k, w) => do
          let key ← shownWithin depth (cell :: inside) k
          let value ← shownWithin depth (cell :: inside) w
          return key ++ ": " ++ value
        return "\x7b" ++ commas parts ++ "\x7d"
    | view kind cell =>
      let items := viewItems kind (← Eval.dictAt cell)
      return viewWord kind ++ "([" ++ commas (← items.mapM (shownWithin depth inside)) ++ "])"
    | range start stop step => return rangeText start stop step
    | absent .. => return "Undefined"
    | function "dict" => return "<class 'dict'>"
    | v => return "<" ++ v.typeName ++ ">"

def shown (v : Value) : Eval String := shownWithin deepest [] v

def display (v : Value) : Eval String := do
  match v with
  | text s | safe s => return s
  | absent why lenient => if lenient then return "" else throw (absenceFault why)
  | v => shown v

end Stencil.Value
