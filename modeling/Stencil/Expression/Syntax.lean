/-!
# Expressions

The parts of an expression as it is written. Arguments are given by position, by name, or spread out
from one value.
-/

namespace Stencil.Expression

inductive Literal where
  | none
  | bool (b : Bool)
  | int (n : Int)
  | float (x : Float)
  | text (s : String)

inductive Sign where
  | plus
  | minus
deriving Repr, DecidableEq

inductive Operator where
  | add
  | subtract
  | multiply
  | divide
  | divideFloor
  | remainder
  | power
deriving Repr, DecidableEq

inductive Comparison where
  | equal
  | different
  | less
  | lessEqual
  | greater
  | greaterEqual
  | isIn
  | notIn
deriving Repr, DecidableEq

mutual

/-- An expression. A condition without an alternative carries its line. -/
inductive Expr where
  | literal (value : Literal)
  | name (name : String)
  | list (items : List Expr)
  | tuple (items : List Expr)
  | dict (entries : List Entry)
  | member (e : Expr) (name : String)
  | item (e key : Expr)
  | slice (e : Expr) (start stop step : Option Expr)
  | call (e : Expr) (args : List Arg)
  | filter (e : Expr) (name : String) (args : List Arg)
  | test (e : Expr) (name : String) (args : List Arg)
  | signed (sign : Sign) (e : Expr)
  | binary (op : Operator) (left right : Expr)
  | concat (items : List Expr)
  | compare (e : Expr) (links : List Link)
  | both (left right : Expr)
  | either (left right : Expr)
  | negate (e : Expr)
  | choose (cond yes : Expr) (no : Option Expr) (line : Nat)

inductive Entry where
  | mk (key value : Expr)

inductive Arg where
  | plain (e : Expr)
  | named (name : String) (e : Expr)
  | spread (e : Expr)
  | spreadNamed (e : Expr)

inductive Link where
  | mk (comparison : Comparison) (e : Expr)

end

instance : Inhabited Expr := ⟨.literal .none⟩

end Stencil.Expression
