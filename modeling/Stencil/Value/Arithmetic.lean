import Stencil.Number.Arithmetic
import Stencil.Number.Fixed
import Stencil.Expression.Syntax
import Stencil.Value.Display
import Stencil.Value.Equality
import Stencil.Value.Format
/-!
# Arithmetic of values

Numbers are combined as integers as long as both are, and as floating point numbers otherwise. Texts and
sequences can be added and repeated, and a remainder of a text puts values into it.
-/

namespace Stencil.Value

open Number Expression

def toFloat : Numeric → Eval Float
  | .whole n => match ofInt? n with
    | some x => return x
    | Option.none => throw .overflow
  | .real x => return x

def Numeric.isZero : Numeric → Bool
  | .whole n => n == 0
  | .real x => x == 0

def isFinite (x : Float) : Bool := kind x matches .finite _

/-- A power of floating point numbers. A power of a negative number that is not real has no value here but
its kind. -/
def floatPower (x y : Float) : Eval Value := do
  let z := Float.pow x y
  if !isFinite x || !isFinite y then return .float z
  else if x == 0 && y < 0 then throw .divisionByZero
  else if isFinite z then return .float z
  else if isNaN z && isFinite (Float.pow x.abs y) then return .other "complex"
  else throw .overflow

def combine (op : Operator) (a b : Numeric) : Eval Value := do
  match op, a, b with
  | .add, .whole m, .whole n => return .int (m + n)
  | .subtract, .whole m, .whole n => return .int (m - n)
  | .multiply, .whole m, .whole n => return .int (m * n)
  | .divide, .whole m, .whole n =>
    if n == 0 then throw .divisionByZero
    else match quotient? m n with
      | some x => return .float x
      | Option.none => throw .overflow
  | .divideFloor, .whole m, .whole n => if n == 0 then throw .divisionByZero else return .int (m.fdiv n)
  | .remainder, .whole m, .whole n => if n == 0 then throw .divisionByZero else return .int (m.fmod n)
  | .power, .whole m, .whole n =>
    if n ≥ 0 then return .int (Int.pow m n.toNat)
    else floatPower (← toFloat a) (← toFloat b)
  | _, _, _ =>
    let x ← toFloat a
    let y ← toFloat b
    match op with
    | .add => return .float (x + y)
    | .subtract => return .float (x - y)
    | .multiply => return .float (x * y)
    | .power => floatPower x y
    | .divide => if y == 0 then throw .divisionByZero else return .float (x / y)
    | .divideFloor => if y == 0 then throw .divisionByZero else return .float (floorQuotient x y)
    | .remainder => if y == 0 then throw .divisionByZero else return .float (Number.remainder x y)

def repeated {α : Type} (n : Int) (items : List α) : List α := (List.replicate n.toNat items).flatten

def repeatText (n : Int) (s : String) : String := String.ofList (repeated n s.toList)

def repeatValue (v : Value) (n : Int) : Eval Value := do
  let n ← match v with
    | text _ | safe _ | bytes _ | tuple _ | list _ => if fits greatestWord n then pure n else throw .overflow
    | _ => throw .wrongType
  match v with
  | text s => return text (repeatText n s)
  | safe s => return safe (repeatText n s)
  | bytes bs => return bytes (repeated n bs)
  | tuple items => return tuple (repeated n items)
  | list cell => Eval.newList (repeated n (← Eval.listAt cell).toList)
  | _ => throw .wrongType

def append (a b : Value) : Eval Value := do
  match a, b with
  | text s, text t => return text (s ++ t)
  | safe s, safe t => return safe (s ++ t)
  | safe s, text t => return safe (s ++ escapeText t)
  | text s, safe t => return safe (escapeText s ++ t)
  | bytes s, bytes t => return bytes (s ++ t)
  | tuple s, tuple t => return tuple (s ++ t)
  | list i, list j => Eval.newList ((← Eval.listAt i) ++ (← Eval.listAt j)).toList
  | _, _ => throw .wrongType

def operate (op : Operator) (a b : Value) : Eval Value := do
  match op, a, b with
  | .remainder, text s, _ => return text (← insertInto s false b)
  | .remainder, safe s, _ => return safe (← insertInto s true b)
  | _, absent why _, _ | _, _, absent why _ => throw (absenceFault why)
  | _, _, _ =>
    match a.numeric?, b.numeric? with
    | some m, some n => combine op m n
    | _, _ =>
      match op, a.int?, b.int? with
      | .add, _, _ => append a b
      | .multiply, some n, _ => repeatValue b n
      | .multiply, _, some n => repeatValue a n
      | _, _, _ => throw .wrongType

def signed (sign : Sign) (v : Value) : Eval Value := do
  match v, sign with
  | absent why _, _ => throw (absenceFault why)
  | float x, .plus => return float x
  | float x, .minus => return float (-x)
  | _, _ =>
    match v.int?, sign with
    | some n, .plus => return int n
    | some n, .minus => return int (-n)
    | Option.none, _ => throw .wrongType

end Stencil.Value
