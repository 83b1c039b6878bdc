import Stencil.Value.Display
import Stencil.Value.Equality
/-!
# Looking into values

Values have methods and items. A name after a point means the method of that name and then the item; a
key in brackets means the item and then the method. Names that begin with an underscore are internal,
and asking for one that exists gives a missing value whose use is forbidden.
-/

namespace Stencil.Value

def textMethods : List String := ["capitalize", "casefold", "center", "count", "encode", "endswith",
  "expandtabs", "find", "format", "format_map", "index", "isalnum", "isalpha", "isascii", "isdecimal",
  "isdigit", "isidentifier", "islower", "isnumeric", "isprintable", "isspace", "istitle", "isupper",
  "join", "ljust", "lower", "lstrip", "maketrans", "partition", "removeprefix", "removesuffix",
  "replace", "rfind", "rindex", "rjust", "rpartition", "rsplit", "rstrip", "split", "splitlines",
  "startswith", "strip", "swapcase", "title", "translate", "upper", "zfill"]

def listMethods : List String :=
  ["append", "clear", "copy", "count", "extend", "index", "insert", "pop", "remove", "reverse", "sort"]

def dictMethods : List String := ["clear", "copy", "fromkeys", "get", "items", "keys", "pop", "popitem",
  "setdefault", "update", "values"]

def methodNames : Value → List String
  | text _ => textMethods
  | safe _ => ["escape", "striptags", "unescape"] ++ textMethods
  | list _ => listMethods
  | dict _ => dictMethods
  | tuple _ | range .. => ["count", "index"]
  | int _ | bool _ => ["as_integer_ratio", "bit_count", "bit_length", "conjugate", "from_bytes",
      "to_bytes"]
  | float _ => ["as_integer_ratio", "conjugate", "fromhex", "hex", "is_integer"]
  | _ => []

def commonInternals : List String := ["class", "delattr", "dir", "doc", "eq", "format", "ge",
  "getattribute", "getstate", "gt", "hash", "init", "init_subclass", "le", "lt", "ne", "new", "reduce",
  "reduce_ex", "repr", "setattr", "sizeof", "str", "subclasshook"]

def sequenceInternals : List String := ["add", "contains", "getitem", "iter", "len", "mul", "rmul"]

def numberInternals : List String := ["abs", "add", "bool", "ceil", "divmod", "float", "floor",
  "floordiv", "getnewargs", "int", "mod", "mul", "neg", "pos", "pow", "radd", "rdivmod", "rfloordiv",
  "rmod", "rmul", "round", "rpow", "rsub", "rtruediv", "sub", "truediv", "trunc"]

def ownInternals : Value → List String
  | text _ => ["getnewargs", "mod", "rmod"] ++ sequenceInternals
  | safe _ => ["dict", "getnewargs", "html", "html_format", "mod", "module", "radd", "rmod", "slots"] ++
      sequenceInternals
  | bytes _ => ["bytes", "getnewargs", "mod", "rmod"] ++ sequenceInternals
  | tuple _ => ["class_getitem", "getnewargs"] ++ sequenceInternals
  | list _ => ["class_getitem", "delitem", "iadd", "imul", "reversed", "setitem"] ++ sequenceInternals
  | dict _ => ["class_getitem", "contains", "delitem", "getitem", "ior", "iter", "len", "or", "reversed",
      "ror", "setitem"]
  | range .. => ["bool", "contains", "getitem", "iter", "len", "reversed"]
  | int _ | bool _ => ["and", "index", "invert", "lshift", "or", "rand", "rlshift", "ror", "rrshift",
      "rshift", "rxor", "xor"] ++ numberInternals
  | float _ => "getformat" :: numberInternals
  | none => ["bool"]
  | outside _ => ["annotations", "builtins", "call", "closure", "code", "defaults", "dict", "get",
      "globals", "kwdefaults", "module", "name", "qualname"]
  | function _ | method .. => ["call", "module", "name", "qualname", "self", "text_signature"]
  | absent .. => ["add", "bool", "call", "complex", "div", "float", "floordiv", "getattr", "getitem",
      "int", "iter", "len", "mod", "module", "mul", "neg", "pos", "pow", "radd", "rdiv", "rfloordiv",
      "rmod", "rmul", "rpow", "rsub", "rtruediv", "slots", "sub", "truediv"]
  | _ => []

/-- Whether a name is between two pairs of underscores that enclose an internal name of a value. -/
def hasInternal (v : Value) (name : String) : Bool :=
  let inner := ((name.drop 2).dropEnd 2).toString
  name.startsWith "__" && name.endsWith "__" &&
    (commonInternals.contains inner || v.ownInternals.contains inner)

def member? (v : Value) (name : String) : Option Value :=
  if name.startsWith "_" then
    if v.hasInternal name then some (absent (.blocked v.typeName name) false) else Option.none
  else if v.methodNames.contains name then some (method v name)
  else Option.none

def place? (length : Nat) (i : Int) : Option Nat :=
  let j := if i < 0 then i + length else i
  if 0 ≤ j && j < length then some j.toNat else Option.none

/-- The item of a key; none when the value has no such item or no items at all. -/
def item? (v key : Value) : Eval (Option Value) := do
  match v with
  | dict cell =>
    match keyFault? key with
    | some .wrongType => return Option.none
    | some fault => throw fault
    | Option.none => return lookup? key (← Eval.dictAt cell)
  | absent why _ => throw (absenceFault why)
  | _ =>
    match key.int? with
    | Option.none => return Option.none
    | some i =>
      match v with
      | text s => return (do (characters s)[← place? s.length i]?)
      | safe s => return (do s.toList[← place? s.length i]?).map fun c => safe (String.singleton c)
      | bytes bs => return (do bs[← place? bs.length i]?).map fun (b : UInt8) => int b.toNat
      | tuple items => return (do items[← place? items.length i]?)
      | list cell =>
        let items ← Eval.listAt cell
        return (do items[← place? items.size i]?)
      | range start stop step =>
        return (place? (rangeLength start stop step) i).map fun (n : Nat) => int (start + step * (n : Int))
      | _ => return Option.none

def missing (v key : Value) : Eval Value := do
  match key.text? with
  | some name => return absent (.member v.ownerName name) false
  | Option.none => return absent (.element v.ownerName (← shown key)) false

def memberOf (v : Value) (name : String) : Eval Value := do
  match v.member? name with
  | some found => return found
  | Option.none =>
    match ← v.item? (text name) with
    | some found => return found
    | Option.none => v.missing (text name)

def subscript (v key : Value) : Eval Value := do
  match ← v.item? key with
  | some found => return found
  | Option.none =>
    match key.text?.bind v.member? with
    | some found => return found
    | Option.none => v.missing key

def sliceBound (v : Value) : Eval (Option Int) := do
  match v, v.int? with
  | none, _ => return Option.none
  | _, some n => return some n
  | _, Option.none => throw .wrongType

def clamp (low high n : Int) : Int := max low (min high n)

def boundOf (length low high : Int) (standard : Int) (bound : Option Int) : Int :=
  match bound with
  | Option.none => standard
  | some n => clamp low high (if n < 0 then n + length else n)

/-- The places of a slice: the first, the one before which it ends, and the step. -/
def slicePlaces (length : Nat) (start stop : Option Int) (step : Int) : Int × Int :=
  let n : Int := length
  if step > 0 then (boundOf n 0 n 0 start, boundOf n 0 n n stop)
  else (boundOf n (-1) (n - 1) (n - 1) start, boundOf n (-1) (n - 1) (-1) stop)

def sliceList {α : Type} (items : List α) (start stop : Option Int) (step : Int) : List α :=
  let (first, last) := slicePlaces items.length start stop step
  let all := items.toArray
  (List.range (rangeLength first last step)).filterMap fun (i : Nat) =>
    all[(first + step * (i : Int)).toNat]?

def slice (v start stop step : Value) : Eval Value := do
  match v with
  | absent why _ => throw (absenceFault why)
  | text _ | safe _ | bytes _ | tuple _ | list _ | range .. => do
    let step := (← sliceBound step).getD 1
    if step == 0 then Eval.refuse "slice step cannot be zero"
    else
      let start ← sliceBound start
      let stop ← sliceBound stop
      match v with
      | text s => return text (String.ofList (sliceList s.toList start stop step))
      | safe s => return safe (String.ofList (sliceList s.toList start stop step))
      | bytes bs => return bytes (sliceList bs start stop step)
      | tuple items => return tuple (sliceList items start stop step)
      | list cell => Eval.newList (sliceList (← Eval.listAt cell).toList start stop step)
      | range a b c =>
        let (first, last) := slicePlaces (rangeLength a b c) start stop step
        return range (a + c * first) (a + c * last) (c * step)
      | _ => throw .wrongType
  | _ => throw .wrongType

/-- Whether a value is in a stream, which is used up to the first item that equals it. -/
def inStream (cell : Nat) (v : Value) : Nat → Eval Bool
  | 0 => return false
  | fuel + 1 => do
    match ← Eval.streamAt cell with
    | (item :: rest, fault) => do
      Eval.put cell (.stream rest fault)
      if ← orIdentical equal item v then return true else inStream cell v fuel
    | ([], some fault) => throw fault
    | ([], Option.none) => return false

def occursIn (sub s : List Char) : Bool :=
  match s with
  | [] => sub.isEmpty
  | _ :: rest => sub.isPrefixOf s || occursIn sub rest

def contains (container v : Value) : Eval Bool := do
  match container with
  | text s | safe s =>
    match v.text? with
    | some sub => return occursIn sub.toList s.toList
    | Option.none => throw .wrongType
  | dict cell | view .keys cell => do
    checkKey v
    return (lookup? v (← Eval.dictAt cell)).isSome
  | stream cell => do
    let (items, _) ← Eval.streamAt cell
    inStream cell v (items.length + 1)
  | absent why false => throw (absenceFault why)
  | _ => anyEqual v (← container.items)

end Stencil.Value
