import Stencil.Value.Method
import Stencil.Value.Test
/-!
# Filters

The operations that are applied to a value by name. Those that go through the items of a value and give
others in turn make a stream: a fault on the way is met only by whoever reads that far.
-/

namespace Stencil.Value

open Text Arguments

def filterNames : List String := ["abs", "capitalize", "count", "d", "default", "dictsort", "e", "escape",
  "first", "float", "format", "int", "items", "join", "last", "length", "list", "lower", "map", "max",
  "min", "reject", "rejectattr", "replace", "reverse", "round", "safe", "select", "selectattr", "sort",
  "string", "sum", "title", "trim", "unique", "upper"]

def attempt {α : Type} (m : Eval α) : Eval (Except Fault α) := fun s =>
  match m s with
  | .ok a s => .ok (.ok a) s
  | .error e s => .ok (.error e) s

def streamOf (m : Eval (List Value × Option Fault)) : Eval Value := do
  match ← attempt m with
  | .ok (found, fault) => Eval.newStream found fault
  | .error fault => Eval.newStream [] (some fault)

def collect (f : Value → Eval (Option Value)) : List Value → Option Fault →
    Eval (List Value × Option Fault)
  | [], fault => return ([], fault)
  | v :: rest, fault => do
    match ← attempt (f v) with
    | .error fault => return ([], some fault)
    | .ok found =>
      let (more, fault) ← collect f rest fault
      return (found.toList ++ more, fault)

def through (v : Value) (prepare : Eval (Value → Eval (Option Value))) : Eval Value :=
  streamOf do
    if ← truth v then
      let f ← prepare
      let (found, fault) ← v.itemsUpToFault
      collect f found fault
    else return ([], Option.none)

/-- The keys that a path of names names: its parts between points, digits as numbers. -/
def path (v : Value) : List Value :=
  match v with
  | none => []
  | _ =>
    match v.text? with
    | some s => (splitOn ['.'] s.length s.toList).map keyOf
    | Option.none => [v]

def follow : Value → List Value → Eval Value
  | v, [] => return v
  | v, key :: rest => do follow (← v.subscript key) rest

def ignoreCase (v : Value) : Value :=
  match v with
  | text s => text (String.ofList (lower s.toList))
  | safe s => safe (String.ofList (lower s.toList))
  | _ => v

def folded (caseSensitive : Bool) (v : Value) : Value := if caseSensitive then v else ignoreCase v

def withKeys (f : Value → Eval Value) : List Value → Eval (List Keyed)
  | [] => return []
  | v :: rest => do
    let key ← f v
    return (key, v) :: (← withKeys f rest)

/-- The first of the items whose key no other comes before in an order; each key is found in its turn. -/
def extreme (order : Ordering → Bool) (f : Value → Eval Value) : Keyed → List Value → Eval Value
  | best, [] => return best.2
  | best, v :: rest => do
    let key ← f v
    if ← ordered order key best.1 then extreme order f (key, v) rest else extreme order f best rest

def firstOfEach (f : Value → Eval Value) :
    List Value → List (Value × Value) → Option Fault → Eval (List Value × Option Fault)
  | [], _, fault => return ([], fault)
  | v :: rest, seen, fault => do
    match ← attempt (do let key ← f v; checkKey key; return key) with
    | .error fault => return ([], some fault)
    | .ok key =>
      if (lookup? key seen).isSome then firstOfEach f rest seen fault
      else
        let (more, fault) ← firstOfEach f rest ((key, key) :: seen) fault
        return (v :: more, fault)

def total : Value → List Value → Eval Value
  | sum, [] => return sum
  | sum, v :: rest => do total (← operate .add sum v) rest

def startsWords (c : Char) : Bool := isBlank c || "-([<\x7b".toList.contains c

/-- The words of a text with their first letters in upper case and the others in lower case. -/
def titled : Nat → List Char → List Char
  | 0, _ => []
  | _ + 1, [] => []
  | fuel + 1, c :: rest =>
    if startsWords c then c :: titled fuel rest
    else
      let word := rest.takeWhile (!startsWords ·)
      upper [c] ++ lower word ++ titled fuel (rest.dropWhile (!startsWords ·))

def softText (v : Value) : Eval Value := do
  match v with
  | text _ | safe _ => return v
  | _ => return text (← display v)

def mapText (f : List Char → List Char) (v : Value) : Eval Value := do
  match ← softText v with
  | safe s => return safe (String.ofList (f s.toList))
  | w => return text (String.ofList (f (w.text?.getD "").toList))

def escaped (v : Value) : Eval Value := do return safe (← inserted true v)

def numberText? (v : Value) : Option (List Char) :=
  match v with
  | bytes bs => some (bs.map fun b => Char.ofNat b.toNat)
  | _ => v.text?.map String.toList

/-- A floating point number from a number or a text; none when the value is neither. -/
def asFloat? (v : Value) : Eval (Option Float) := do
  match v, numberText? v, v.numeric? with
  | absent why _, _, _ => throw (absenceFault why)
  | _, some cs, _ => return Number.readFloat? cs
  | _, _, some n => return some (← toFloat n)
  | _, _, _ => return Option.none

/-- The integer that a value stands for in a base; none when it stands for none. -/
def asInt? (v base : Value) : Eval (Option Int) := do
  match v, numberText? v with
  | absent why _, _ => throw (absenceFault why)
  | float x, _ =>
    match Number.kind x with
    | .finite b => return some b.truncate
    | .infinite _ => throw .overflow
    | .notANumber => return Option.none
  | bytes _, some cs => return (Number.readInt 10 Number.digitLimit cs).toOption
  | _, some cs =>
    match base.int? with
    | some b =>
      if b == 0 || (2 ≤ b && b ≤ 36) then return (Number.readInt b.toNat Number.digitLimit cs).toOption
      else return Option.none
    | Option.none => return Option.none
  | _, Option.none => return v.int?

def toInt (v standard base : Value) : Eval Value := do
  match ← asInt? v base with
  | some n => return int n
  | Option.none =>
    match ← attempt (asFloat? v) with
    | .ok (some x) =>
      match Number.kind x with
      | .finite b => return int b.truncate
      | _ => return standard
    | .ok Option.none | .error .overflow => return standard
    | .error fault => throw fault

def rounded (v precision : Value) : Eval Value := do
  match v, precision, precision.int? with
  | float x, none, _ =>
    match Number.kind x with
    | .finite b => return int b.toNearest
    | .infinite _ => throw .overflow
    | .notANumber => Eval.refuse "cannot convert float NaN to integer"
  | float x, _, some p =>
    match Number.roundPlaces? x p with
    | some y => return float y
    | Option.none => throw .overflow
  | _, _, _ =>
    match v.int?, precision, precision.int? with
    | some n, none, _ => return int n
    | some n, _, some p => return int (if p ≥ 0 then n else Number.roundTens n (-p).toNat)
    | _, _, _ => throw .wrongType

def nextWhole (rule : Number.Binary → Int) (v : Value) : Eval Value := do
  match v, v.int? with
  | float x, _ =>
    match Number.kind x with
    | .finite b => return int (rule b)
    | .infinite _ => throw .overflow
    | .notANumber => Eval.refuse "cannot convert float NaN to integer"
  | _, some n => return int n
  | _, Option.none => throw .wrongType

def roundBy (v precision way : Value) : Eval Value := do
  checkKey way
  let directed (rule : Number.Binary → Int) : Eval Value := do
    let power ← operate .power (int 10) precision
    let scaled ← nextWhole rule (← operate .multiply v power)
    operate .divide scaled power
  match way.text? with
  | some "common" => rounded v precision
  | some "ceil" => directed Number.Binary.ceil
  | some "floor" => directed Number.Binary.floor
  | _ => throw .filterArgument

/-- A value turned round: a text, a stream of items, or a new list of the items of a stream. -/
def reversed (v : Value) : Eval Value := do
  match v with
  | text s => return text (String.ofList s.toList.reverse)
  | safe s => return safe (String.ofList s.toList.reverse)
  | stream _ => Eval.newList (← v.items).reverse
  | view .. | bytes _ | tuple _ | list _ | dict _ | range .. | absent .. =>
    Eval.newStream (← v.items).reverse Option.none
  | _ => throw .filterArgument

def firstItem (v : Value) : Eval Value := do
  let noItem := absent (.because "No first item, sequence was empty.") false
  match v with
  | stream cell =>
    match ← Eval.streamAt cell with
    | (item :: rest, fault) => Eval.put cell (.stream rest fault); return item
    | ([], some fault) => throw fault
    | ([], Option.none) => return noItem
  | _ => return (← v.items).headD noItem

def lastItem (v : Value) : Eval Value := do
  match v with
  | stream _ => throw .wrongType
  | _ => return (← v.items).getLastD (absent (.because "No last item, sequence was empty.") false)

def sortedEntries (v caseSensitive by_ reverse : Value) : Eval Value := do
  let byKey ← match by_.text? with
    | some "key" => pure true
    | some "value" => pure false
    | _ => match by_ with
      | absent why _ => throw (absenceFault why)
      | _ => throw .filterArgument
  match v with
  | dict cell =>
    let entries ← Eval.dictAt cell
    let isReversed ← needFlag reverse
    let sensitive ← if entries.isEmpty then pure true else truth caseSensitive
    let keyed := entries.map fun (k, w) => (folded sensitive (if byKey then k else w), tuple [k, w])
    Eval.newList (← sortKeyed keyed isReversed)
  | absent why _ => throw (absenceFault why)
  | _ => throw .noAttribute

def entryName (v : Value) : Eval String := do
  checkKey v
  match v.text? with
  | some s => return s
  | Option.none => shown v

/-- The test that arguments name and the arguments left for it; truth when there is none. -/
def chosenTest (a : Arguments) : Eval (Value → Eval Bool) :=
  match a.places with
  | [] => return truth
  | name :: rest => return fun v => do test (← entryName name) v ⟨rest, a.names⟩

def selecting (keep : Bool) (v : Value) (a : Arguments) : Eval Value :=
  through v do
    let passes ← chosenTest a
    return fun item => do
      return if (← passes item) == keep then some item else Option.none

def selectingBy (keep : Bool) (v : Value) (a : Arguments) : Eval Value :=
  through v do
    match a.places with
    | [] => throw .filterArgument
    | name :: rest =>
      let keys := path name
      let passes ← chosenTest ⟨rest, a.names⟩
      return fun item => do
        return if (← passes (← follow item keys)) == keep then some item else Option.none

/-- The part of an item that keys lead to; another value takes the place of a missing one. -/
def partOr (standard : Value) : Value → List Value → Eval Value
  | v, [] => return v
  | v, key :: rest => do
    let found ← v.subscript key
    match found, standard with
    | absent .., none => partOr standard found rest
    | absent .., _ => partOr standard standard rest
    | _, _ => partOr standard found rest

def extremeItem (order : Ordering → Bool) (v : Value) (a : Arguments) : Eval Value := do
  match ← a.bind [optional "case_sensitive" (bool false), optional "attribute" none] with
  | [caseSensitive, attr] =>
    match ← v.items with
    | [] => return absent (.because "No aggregated item, sequence was empty.") false
    | first :: rest => do
      let sensitive ← truth caseSensitive
      let key (item : Value) : Eval Value := do return folded sensitive (← follow item (path attr))
      extreme order key (← key first, first) rest
  | _ => throw .wrongType

def sorted (v : Value) (a : Arguments) : Eval Value := do
  match ← a.bind [optional "reverse" (bool false), optional "case_sensitive" (bool false),
      optional "attribute" none] with
  | [reverse, caseSensitive, attr] =>
    let sensitive ← truth caseSensitive
    let paths := match attr.text? with
      | some s => (splitOn [','] s.length s.toList).map fun p => path (text (String.ofList p))
      | Option.none => [path attr]
    let found ← v.items
    let isReversed ← needFlag reverse
    let keyed ← withKeys (fun item => do
      let keys ← paths.mapM (follow item)
      return tuple (keys.map (folded sensitive))) found
    Eval.newList (← sortKeyed keyed isReversed)
  | _ => throw .wrongType

def joined (v : Value) (a : Arguments) : Eval Value := do
  match ← a.bind [optional "d" (text ""), optional "attribute" none] with
  | [sep, attr] =>
    let sep ← display sep
    let parts ← (← v.items).mapM fun item => do display (← follow item (path attr))
    return text (String.intercalate sep parts)
  | _ => throw .wrongType

def filterPlain (name : String) (v : Value) (a : Arguments) : Eval Value := do
  match name with
  | "abs" =>
    let _ ← a.placed []
    match v, v.int? with
    | float x, _ => return float x.abs
    | _, some n => return int n.natAbs
    | _, Option.none => throw .wrongType
  | "capitalize" => let _ ← a.placed []; mapText capitalize v
  | "lower" => let _ ← a.placed []; mapText lower v
  | "upper" => let _ ← a.placed []; mapText upper v
  | "title" =>
    let _ ← a.placed []
    let cs := (← display v).toList
    return text (String.ofList (titled (cs.length + 1) cs))
  | "count" | "length" => let _ ← a.placed []; let n ← v.length; return int n
  | "d" | "default" =>
    match ← a.bind [optional "default_value" (text ""), optional "boolean" (bool false)] with
    | [standard, boolean] =>
      match v with
      | absent .. => return standard
      | _ =>
        if ← truth boolean then return if ← truth v then v else standard
        else return v
    | _ => throw .wrongType
  | "dictsort" =>
    match ← a.bind [optional "case_sensitive" (bool false), optional "by" (text "key"),
        optional "reverse" (bool false)] with
    | [caseSensitive, by_, reverse] => sortedEntries v caseSensitive by_ reverse
    | _ => throw .wrongType
  | "e" | "escape" => let _ ← a.placed []; escaped v
  | "first" => let _ ← a.placed []; firstItem v
  | "last" => let _ ← a.placed []; lastItem v
  | "float" =>
    match ← a.bind [optional "default" (float 0)] with
    | [standard] => return ((← asFloat? v).map float).getD standard
    | _ => throw .wrongType
  | "int" =>
    match ← a.bind [optional "default" (int 0), optional "base" (int 10)] with
    | [standard, base] => toInt v standard base
    | _ => throw .wrongType
  | "format" =>
    if !a.places.isEmpty && !a.names.isEmpty then throw .filterArgument
    else
      let given ← if a.names.isEmpty then pure (tuple a.places)
        else do pure (dict (← Eval.alloc (.dict (a.names.map fun (k, w) => (text k, w)))))
      operate .remainder (← softText v) given
  | "items" =>
    let _ ← a.placed []
    streamOf do
      match v with
      | absent .. => return ([], Option.none)
      | dict cell => return (viewItems .entries (← Eval.dictAt cell), Option.none)
      | _ => throw .wrongType
  | "join" => joined v a
  | "list" => let _ ← a.placed []; Eval.newList (← v.items)
  | "max" => extremeItem (· == .gt) v a
  | "min" => extremeItem (· == .lt) v a
  | "reject" => selecting false v a
  | "select" => selecting true v a
  | "rejectattr" => selectingBy false v a
  | "selectattr" => selectingBy true v a
  | "replace" =>
    match ← a.bind [needed "old", needed "new", optional "count" none] with
    | [old, new, count] =>
      let s ← display v
      let old ← display old
      let new ← display new
      let count ← match count with
        | none => pure (-1)
        | _ => needSize count
      return text (String.ofList
        (replace old.toList new.toList (limitOf count (s.length + 1)) s.toList))
    | _ => throw .wrongType
  | "reverse" => let _ ← a.placed []; reversed v
  | "round" =>
    match ← a.bind [optional "precision" (int 0), optional "method" (text "common")] with
    | [precision, way] => roundBy v precision way
    | _ => throw .wrongType
  | "safe" =>
    let _ ← a.placed []
    return safe (← display v)
  | "sort" => sorted v a
  | "string" => let _ ← a.placed []; softText v
  | "sum" =>
    match ← a.bind [optional "attribute" none, optional "start" (int 0)] with
    | [attr, start] =>
      let found ← v.items
      match start with
      | text _ | safe _ | bytes _ => throw .wrongType
      | _ => total start (← found.mapM fun item => follow item (path attr))
    | _ => throw .wrongType
  | "trim" =>
    match ← a.bind [optional "chars" none] with
    | [chars] =>
      let w ← softText v
      let p ← strippable chars
      mapText (stripEnds p) w
    | _ => throw .wrongType
  | "unique" =>
    match ← a.bind [optional "case_sensitive" (bool false), optional "attribute" none] with
    | [caseSensitive, attr] =>
      streamOf do
        let sensitive ← truth caseSensitive
        let (found, fault) ← v.itemsUpToFault
        firstOfEach (fun item => do return folded sensitive (← follow item (path attr))) found [] fault
    | _ => throw .wrongType
  | _ => throw (.lateEntry .filters name)

def filterWithin : Nat → String → Value → Arguments → Eval Value
  | 0, _, _, _ => throw .tooDeep
  | fuel + 1, name, v, a =>
    if name == "map" then
      through v do
        match a.places, a.names.lookup "attribute" with
        | [], some attr =>
          let others := a.names.filter fun (n, _) => n != "attribute" && n != "default"
          let standard := (a.names.lookup "default").getD none
          if !others.isEmpty then throw .filterArgument
          else return fun item => do return some (← partOr standard item (path attr))
        | [], Option.none => throw .filterArgument
        | inner :: rest, _ => return fun item => do
          return some (← filterWithin fuel (← entryName inner) item ⟨rest, a.names⟩)
    else filterPlain name v a

def filter (name : String) (v : Value) (a : Arguments) : Eval Value :=
  filterWithin (a.places.length + 1) name v a

end Stencil.Value
