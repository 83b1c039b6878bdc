import Stencil.Fault
/-!
# Values

The values of expressions. Lists, dictionaries and streams can change while an expression is evaluated,
so a value names the cell of a store in which their contents stand. A missing value is a value too: it
can be passed on, and most uses of it are faults.
-/

namespace Stencil

/-- The parts of a dictionary that a view shows. -/
inductive ViewKind where
  | keys
  | values
  | entries
deriving Repr, DecidableEq

/-- A value. A safe text is one that needs no escaping. A lenient absence counts as empty where others
are faults. An outside function raises a fault with a message of its own whenever it is called. -/
inductive Value where
  | none
  | bool (b : Bool)
  | int (n : Int)
  | float (x : Float)
  | text (s : String)
  | safe (s : String)
  | bytes (bs : List UInt8)
  | tuple (items : List Value)
  | list (cell : Nat)
  | dict (cell : Nat)
  | range (start stop step : Int)
  | absent (why : Absence) (lenient : Bool)
  | outside (message : String)
  | function (name : String)
  | method (owner : Value) (name : String)
  | stream (cell : Nat)
  | view (kind : ViewKind) (cell : Nat)
  | other (typeName : String)
deriving Inhabited

/-- What stands in a cell. A stream gives its items once and ends with a fault if it has one. -/
inductive Cell where
  | list (items : Array Value)
  | dict (entries : List (Value × Value))
  | stream (items : List Value) (fault : Option Fault)
deriving Inhabited

structure Store where
  cells : Array Cell

namespace Store

def empty : Store := ⟨#[]⟩

end Store

abbrev Eval := EStateM Fault Store

namespace Eval

def alloc (c : Cell) : Eval Nat := do
  let s ← get
  set (Store.mk (s.cells.push c))
  return s.cells.size

def put (cell : Nat) (c : Cell) : Eval Unit := modify fun s => ⟨s.cells.setIfInBounds cell c⟩

def listAt (cell : Nat) : Eval (Array Value) := do
  match (← get).cells[cell]? with
  | some (.list items) => return items
  | _ => throw .wrongType

def dictAt (cell : Nat) : Eval (List (Value × Value)) := do
  match (← get).cells[cell]? with
  | some (.dict entries) => return entries
  | _ => throw .wrongType

def streamAt (cell : Nat) : Eval (List Value × Option Fault) := do
  match (← get).cells[cell]? with
  | some (.stream items fault) => return (items, fault)
  | _ => throw .wrongType

def newList (items : List Value) : Eval Value := do return .list (← alloc (.list items.toArray))

def newStream (items : List Value) (fault : Option Fault) : Eval Value := do
  return .stream (← alloc (.stream items fault))

def refuse {α : Type} (message : String) : Eval α := throw (.badValue (.other message))

end Eval

namespace Value

def deepest : Nat := 990

def text? : Value → Option String
  | text s | safe s => some s
  | _ => .none

def int? : Value → Option Int
  | int n => some n
  | bool b => some (if b then 1 else 0)
  | _ => .none

def greatestWord : Nat := 9223372036854775807

def greatestHalfWord : Nat := 2147483647

def fits (greatest : Nat) (n : Int) : Bool := -(greatest : Int) - 1 ≤ n && n ≤ (greatest : Int)

def typeName : Value → String
  | none => "NoneType"
  | bool _ => "bool"
  | int _ => "int"
  | float _ => "float"
  | text _ => "str"
  | safe _ => "Markup"
  | bytes _ => "bytes"
  | tuple _ => "tuple"
  | list _ => "list"
  | dict _ => "dict"
  | range .. => "range"
  | absent _ lenient => if lenient then "Undefined" else "StrictUndefined"
  | outside _ => "function"
  | function name => if name == "dict" then "type" else "function"
  | method .. => "builtin_function_or_method"
  | stream _ => "generator"
  | view .keys _ => "dict_keys"
  | view .values _ => "dict_values"
  | view .entries _ => "dict_items"
  | other name => name

def ownerName : Value → String
  | none => "None"
  | safe _ => "markupsafe.Markup object"
  | v => v.typeName ++ " object"

def absenceFault (why : Absence) : Fault := .absent why

def rangeLength (start stop step : Int) : Nat :=
  if step > 0 then (if start < stop then ((stop - start - 1) / step + 1).toNat else 0)
  else if start > stop then ((start - stop - 1) / (-step) + 1).toNat
  else 0

def rangeItems (start stop step : Int) : List Value :=
  (List.range (rangeLength start stop step)).map fun (i : Nat) => int (start + step * (i : Int))

def truth (v : Value) : Eval Bool := do
  match v with
  | none => return false
  | bool b => return b
  | int n => return n != 0
  | float x => return x != 0
  | text s | safe s => return !s.isEmpty
  | bytes bs => return !bs.isEmpty
  | tuple items => return !items.isEmpty
  | list cell => return !(← Eval.listAt cell).isEmpty
  | dict cell | view _ cell => return !(← Eval.dictAt cell).isEmpty
  | range start stop step => return rangeLength start stop step != 0
  | absent why lenient => if lenient then return false else throw (absenceFault why)
  | _ => return true

def length (v : Value) : Eval Nat := do
  match v with
  | text s | safe s => return s.length
  | bytes bs => return bs.length
  | tuple items => return items.length
  | list cell => return (← Eval.listAt cell).size
  | dict cell | view _ cell => return (← Eval.dictAt cell).length
  | range start stop step => return rangeLength start stop step
  | absent why lenient => if lenient then return 0 else throw (absenceFault why)
  | _ => throw .wrongType

def characters (s : String) : List Value := s.toList.map fun c => text (String.singleton c)

def viewItems (kind : ViewKind) (entries : List (Value × Value)) : List Value :=
  match kind with
  | .keys => entries.map Prod.fst
  | .values => entries.map Prod.snd
  | .entries => entries.map fun (k, v) => tuple [k, v]

/-- The items of a value, and the fault that comes after them. A stream is used up. -/
def itemsUpToFault (v : Value) : Eval (List Value × Option Fault) := do
  match v with
  | text s | safe s => return (characters s, .none)
  | bytes bs => return (bs.map fun b => int b.toNat, .none)
  | tuple items => return (items, .none)
  | list cell => return ((← Eval.listAt cell).toList, .none)
  | dict cell => return (viewItems .keys (← Eval.dictAt cell), .none)
  | view kind cell => return (viewItems kind (← Eval.dictAt cell), .none)
  | range start stop step => return (rangeItems start stop step, .none)
  | stream cell => do
    let found ← Eval.streamAt cell
    Eval.put cell (.stream [] .none)
    return found
  | absent why lenient => if lenient then return ([], .none) else throw (absenceFault why)
  | _ => throw .wrongType

def items (v : Value) : Eval (List Value) := do
  match ← itemsUpToFault v with
  | (found, .none) => return found
  | (_, some fault) => throw fault

end Value

end Stencil
