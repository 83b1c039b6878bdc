import Stencil.Expression.Syntax
import Stencil.Value.Filter
/-!
# Names of filters and tests

An expression that names a filter or a test that does not exist is refused before it is evaluated, the
outermost such name first. Inside a condition such a name is a fault only when it is reached.
-/

namespace Stencil.Expression

def unknown? (table : Table) (known : List String) (name : String) : Option Fault :=
  if known.contains name then none else some (.unknownEntry table name)

mutual

def nameFault? : Expr → Option Fault
  | .literal _ | .name _ | .choose .. => none
  | .list items | .tuple items | .concat items => anyNameFault? items
  | .dict entries => entriesFault? entries
  | .member e _ | .signed _ e | .negate e => nameFault? e
  | .item e key => (nameFault? e).or (nameFault? key)
  | .slice e start stop step =>
    (nameFault? e).or ((optionFault? start).or ((optionFault? stop).or (optionFault? step)))
  | .call e args => (nameFault? e).or (argsFault? args)
  | .filter e name args =>
    (unknown? .filters Value.filterNames name).or ((nameFault? e).or (argsFault? args))
  | .test e name args =>
    (unknown? .tests Value.testNames name).or ((nameFault? e).or (argsFault? args))
  | .binary _ left right | .both left right | .either left right =>
    (nameFault? left).or (nameFault? right)
  | .compare e links => (nameFault? e).or (linksFault? links)

def optionFault? : Option Expr → Option Fault
  | some e => nameFault? e
  | none => none

def anyNameFault? : List Expr → Option Fault
  | [] => none
  | e :: rest => (nameFault? e).or (anyNameFault? rest)

def entriesFault? : List Entry → Option Fault
  | [] => none
  | .mk key value :: rest => (nameFault? key).or ((nameFault? value).or (entriesFault? rest))

def argsFault? : List Arg → Option Fault
  | [] => none
  | .plain e :: rest | .named _ e :: rest | .spread e :: rest | .spreadNamed e :: rest =>
    (nameFault? e).or (argsFault? rest)

def linksFault? : List Link → Option Fault
  | [] => none
  | .mk _ e :: rest => (nameFault? e).or (linksFault? rest)

end

end Stencil.Expression
