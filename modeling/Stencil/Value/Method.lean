import Stencil.Text.Case
import Stencil.Text.Identifier
import Stencil.Text.Search
import Stencil.Value.Arguments
import Stencil.Value.Placeholder
import Stencil.Value.Sort
/-!
# Methods

What the methods of texts, lists, dictionaries and tuples do. Methods of lists and dictionaries may change
them, and whoever holds the same list or dictionary sees the change.
-/

namespace Stencil.Value

open Text Arguments

def needText (v : Value) : Eval (List Char) :=
  match v.text? with
  | some s => return s.toList
  | Option.none => throw .wrongType

def needInt (v : Value) : Eval Int :=
  match v.int? with
  | some n => return n
  | Option.none => throw .wrongType

def needSize (v : Value) : Eval Int := do
  let n ← needInt v
  if fits greatestWord n then return n else throw .overflow

def needFlag (v : Value) : Eval Bool := do
  let n ← needInt v
  if fits greatestHalfWord n then return n != 0 else throw .overflow

/-- The part of a sequence between two bounds and the place where it begins; none when it would begin
after the end. -/
def window (s : List Char) (start stop : Value) : Eval (Option (Nat × List Char)) := do
  let n : Int := s.length
  let first := boundOf n 0 (n + 1) 0 (← sliceBound start)
  let last := boundOf n 0 n n (← sliceBound stop)
  if first > n || first > last then return Option.none
  else return some (first.toNat, (s.drop first.toNat).take (last - first).toNat)

def limitOf (n : Int) (most : Nat) : Nat := if n < 0 then most else n.toNat

def splitText (s : List Char) (sep : Value) (limit : Int) : Eval (List (List Char)) := do
  let most := limitOf limit (s.length + 1)
  match sep with
  | none => return splitRuns isBlank most s
  | _ =>
    let sub ← needText sep
    if sub.isEmpty then Eval.refuse "empty separator" else return splitOn sub most s

/-- A text without some characters at its ends: white space, or those of another text. -/
def strippable (chars : Value) : Eval (Char → Bool) := do
  match chars with
  | none => return isBlank
  | _ =>
    let cs ← needText chars
    return fun c => cs.contains c

def needTexts : List Value → Eval (List (List Char))
  | [] => return []
  | v :: rest => do
    let s ← needText v
    return s :: (← needTexts rest)

def guardedTexts : List Value → Eval (List (List Char))
  | [] => return []
  | v :: rest => do
    let s ← inserted true v
    return s.toList :: (← guardedTexts rest)

/-- The beginnings or ends that are asked for: one text or a tuple of texts. -/
def alternatives (v : Value) : Eval (List (List Char)) := do
  match v with
  | tuple items => needTexts items
  | _ => return [← needText v]

def textAs (isSafe : Bool) (cs : List Char) : Value :=
  if isSafe then safe (String.ofList cs) else text (String.ofList cs)

def textMethod (isSafe : Bool) (str : String) (name : String) (a : Arguments) : Eval Value := do
  let s := str.toList
  let mk := textAs isSafe
  let found := [needed "sub", optional "start" none, optional "end" none]
  match name with
  | "lower" => let _ ← a.placed []; return mk (lower s)
  | "upper" => let _ ← a.placed []; return mk (upper s)
  | "title" => let _ ← a.placed []; return mk (title s)
  | "capitalize" => let _ ← a.placed []; return mk (capitalize s)
  | "isdigit" => let _ ← a.placed []; return bool (!s.isEmpty && s.all isDigit)
  | "isdecimal" => let _ ← a.placed []; return bool (!s.isEmpty && s.all isDecimal)
  | "islower" => let _ ← a.placed []; return bool (isLower s)
  | "isupper" => let _ ← a.placed []; return bool (isUpper s)
  | "isspace" => let _ ← a.placed []; return bool (!s.isEmpty && s.all isBlank)
  | "isidentifier" => let _ ← a.placed []; return bool (isIdentifier s)
  | "strip" => match ← a.placed [optional "chars" none] with
    | [chars] => return mk (stripEnds (← strippable chars) s)
    | _ => throw .wrongType
  | "lstrip" => match ← a.placed [optional "chars" none] with
    | [chars] => return mk (s.dropWhile (← strippable chars))
    | _ => throw .wrongType
  | "rstrip" => match ← a.placed [optional "chars" none] with
    | [chars] => return mk (s.reverse.dropWhile (← strippable chars)).reverse
    | _ => throw .wrongType
  | "split" => match ← a.bind [optional "sep" none, optional "maxsplit" (int (-1))] with
    | [sep, limit] =>
      let pieces ← splitText s sep (← needSize limit)
      Eval.newList (pieces.map mk)
    | _ => throw .wrongType
  | "replace" => match ← a.placed [needed "old", needed "new", optional "count" (int (-1))] with
    | [old, new, count] =>
      let old ← needText old
      let plain ← needText new
      let new ← if isSafe then pure (← inserted true new).toList else pure plain
      let most := limitOf (← needSize count) (s.length + 1)
      return mk (replace old new most s)
    | _ => throw .wrongType
  | "startswith" => match ← a.placed found with
    | [sub, start, stop] =>
      let subs ← alternatives sub
      return bool (((← window s start stop).map fun (_, w) => subs.any (·.isPrefixOf w)).getD false)
    | _ => throw .wrongType
  | "endswith" => match ← a.placed found with
    | [sub, start, stop] =>
      let subs ← alternatives sub
      return bool (((← window s start stop).map fun (_, w) => subs.any (·.isSuffixOf w)).getD false)
    | _ => throw .wrongType
  | "find" | "index" => match ← a.placed found with
    | [sub, start, stop] =>
      let sub ← needText sub
      match (← window s start stop).bind fun (i, w) => (find? sub w).map (i + ·) with
      | some (i : Nat) => return int i
      | Option.none => if name == "find" then return int (-1) else Eval.refuse "substring not found"
    | _ => throw .wrongType
  | "count" => match ← a.placed found with
    | [sub, start, stop] =>
      let sub ← needText sub
      let n : Nat := ((← window s start stop).map fun (_, w) => countOf sub w).getD 0
      return int n
    | _ => throw .wrongType
  | "join" => match ← a.placed [needed "iterable"] with
    | [v] =>
      let items ← v.items
      let parts ← if isSafe then guardedTexts items else needTexts items
      return mk (joinWith s parts)
    | _ => throw .wrongType
  | "format" => return mk (← fill str isSafe ⟨a.places, a.names⟩).toList
  | _ => throw .wrongType

def placeOf (v : Value) : Nat → List Value → Eval (Option Nat)
  | _, [] => return Option.none
  | i, item :: rest => do
    if ← orIdentical equal item v then return some i else placeOf v (i + 1) rest

def countEqual (v : Value) : List Value → Eval Nat
  | [] => return 0
  | item :: rest => do
    let here ← orIdentical equal item v
    let n ← countEqual v rest
    return if here then n + 1 else n

def indexIn (items : List Value) (a : Arguments) (what : Value → Eval String) : Eval Value := do
  match ← a.placed [needed "value", optional "start" (int 0), optional "stop" (int items.length)] with
  | [v, start, stop] =>
    let n : Int := items.length
    let first := boundOf n 0 n 0 (some (← needInt start))
    let last := boundOf n 0 n n (some (← needInt stop))
    match ← placeOf v 0 ((items.take last.toNat).drop first.toNat) with
    | some i => return int (first + i)
    | Option.none => Eval.refuse (← what v)
  | _ => throw .wrongType

def listMethod (cell : Nat) (name : String) (a : Arguments) : Eval Value := do
  let items ← Eval.listAt cell
  match name with
  | "append" => match ← a.placed [needed "item"] with
    | [v] => Eval.put cell (.list (items.push v)); return none
    | _ => throw .wrongType
  | "extend" => match ← a.placed [needed "items"] with
    | [v] =>
      let more ← v.items
      Eval.put cell (.list (items ++ more.toArray))
      return none
    | _ => throw .wrongType
  | "insert" => match ← a.placed [needed "index", needed "item"] with
    | [i, v] =>
      let n : Int := items.size
      let place := boundOf n 0 n n (some (← needSize i))
      Eval.put cell (.list (items.insertIdxIfInBounds place.toNat v))
      return none
    | _ => throw .wrongType
  | "pop" => match ← a.placed [optional "index" (int (-1))] with
    | [i] =>
      match place? items.size (← needSize i) with
      | some n =>
        Eval.put cell (.list (items.eraseIdxIfInBounds n))
        return items.getD n none
      | Option.none => throw .outOfRange
    | _ => throw .wrongType
  | "remove" => match ← a.placed [needed "item"] with
    | [v] =>
      match ← placeOf v 0 items.toList with
      | some n => Eval.put cell (.list (items.eraseIdxIfInBounds n)); return none
      | Option.none => Eval.refuse "list.remove(x): x not in list"
    | _ => throw .wrongType
  | "clear" => let _ ← a.placed []; Eval.put cell (.list #[]); return none
  | "copy" => let _ ← a.placed []; Eval.newList items.toList
  | "reverse" => let _ ← a.placed []; Eval.put cell (.list items.reverse); return none
  | "count" => match ← a.placed [needed "item"] with
    | [v] => let n ← countEqual v items.toList; return int n
    | _ => throw .wrongType
  | "index" => indexIn items.toList a fun v => do return (← shown v) ++ " is not in list"
  | "sort" => match ← Arguments.bind ⟨[], a.names⟩ [optional "key" none, optional "reverse" (bool false)] with
    | [none, reverse] =>
      if !a.places.isEmpty then throw .wrongType
      else
        let sorted ← sortKeyed (items.toList.map fun v => (v, v)) (← needFlag reverse)
        Eval.put cell (.list sorted.toArray)
        return none
    | _ => throw .wrongType
  | _ => throw .wrongType

def insertPairs : Nat → List (Value × Value) → List Value → Eval (List (Value × Value))
  | _, entries, [] => return entries
  | i, entries, v :: rest => do
    match ← v.items with
    | [key, value] =>
      checkKey key
      insertPairs (i + 1) (insert key value entries) rest
    | others => Eval.refuse ("dictionary update sequence element #" ++ decimal i ++ " has length " ++
        decimal others.length ++ "; 2 is required")

/-- The entries of a dictionary with those of a dictionary or of pairs put in, and then named ones. -/
def updated (entries : List (Value × Value)) (a : Arguments) : Eval (List (Value × Value)) := do
  let entries ← match a.places with
    | [] => pure entries
    | [dict source] => pure ((← Eval.dictAt source).foldl (fun es (k, v) => insert k v es) entries)
    | [v] => insertPairs 0 entries (← v.items)
    | _ => throw .wrongType
  return a.names.foldl (fun es (k, v) => insert (text k) v es) entries

def dictMethod (cell : Nat) (name : String) (a : Arguments) : Eval Value := do
  let entries ← Eval.dictAt cell
  match name with
  | "get" => match ← a.placed [needed "key", optional "default" none] with
    | [key, standard] =>
      checkKey key
      return (lookup? key entries).getD standard
    | _ => throw .wrongType
  | "items" => let _ ← a.placed []; return view .entries cell
  | "keys" => let _ ← a.placed []; return view .keys cell
  | "values" => let _ ← a.placed []; return view .values cell
  | "pop" =>
    match a.names, a.places with
    | [], [key] | [], [key, _] =>
      if !entries.isEmpty then checkKey key
      match lookup? key entries, a.places with
      | some v, _ => Eval.put cell (.dict (erase key entries)); return v
      | Option.none, [_, standard] => return standard
      | Option.none, _ => throw (.missingKey (← shown key))
    | _, _ => throw .wrongType
  | "popitem" =>
    let _ ← a.placed []
    match entries.getLast? with
    | some (k, v) => Eval.put cell (.dict entries.dropLast); return tuple [k, v]
    | Option.none => throw (.missingKey (Text.quote "popitem(): dictionary is empty"))
  | "setdefault" => match ← a.placed [needed "key", optional "default" none] with
    | [key, standard] =>
      checkKey key
      match lookup? key entries with
      | some v => return v
      | Option.none => Eval.put cell (.dict (insert key standard entries)); return standard
    | _ => throw .wrongType
  | "update" => Eval.put cell (.dict (← updated entries a)); return none
  | "clear" => let _ ← a.placed []; Eval.put cell (.dict []); return none
  | "copy" => let _ ← a.placed []; return dict (← Eval.alloc (.dict entries))
  | _ => throw .wrongType

def callMethod (owner : Value) (name : String) (a : Arguments) : Eval Value := do
  match owner with
  | text s => textMethod false s name a
  | safe s => textMethod true s name a
  | list cell => listMethod cell name a
  | dict cell => dictMethod cell name a
  | tuple items =>
    match name with
    | "count" => match ← a.placed [needed "item"] with
      | [v] => let n ← countEqual v items; return int n
      | _ => throw .wrongType
    | _ => indexIn items a fun _ => return "tuple.index(x): x not in tuple"
  | range start stop step => do
    let items := rangeItems start stop step
    match ← a.placed [needed "item"] with
    | [v] =>
      if name = "count" then
        let n ← countEqual v items
        return int n
      else
        match ← placeOf v 0 items with
        | some (n : Nat) => return int n
        | Option.none => Eval.refuse ((← shown v) ++ " is not in range")
    | _ => throw .wrongType
  | _ => throw .wrongType

def longestRange : Nat := 100000

def makeRange (a : Arguments) : Eval Value := do
  if !a.names.isEmpty then throw .wrongType
  else
    let (start, stop, step) ← match a.places with
      | [stop] => pure (0, ← needInt stop, 1)
      | [start, stop] => pure (← needInt start, ← needInt stop, 1)
      | [start, stop, step] => pure (← needInt start, ← needInt stop, ← needInt step)
      | _ => throw .wrongType
    if step == 0 then Eval.refuse "range() arg 3 must not be zero"
    else if rangeLength start stop step > longestRange then throw .overflow
    else return range start stop step

def call (v : Value) (a : Arguments) : Eval Value := do
  match v with
  | absent why _ => throw (absenceFault why)
  | outside message => throw (.raised message)
  | method owner name => callMethod owner name a
  | function "range" => makeRange a
  | function "dict" => return dict (← Eval.alloc (.dict (← updated [] a)))
  | _ => throw .wrongType

end Stencil.Value
