import Stencil.Number.Reading
import Stencil.Text.Digit
import Stencil.Text.Search
import Stencil.Value.Access
import Stencil.Value.Layout
/-!
# Placeholders

A text with placeholders in braces takes values by place or by name, looks into them, and lays them out.
Braces that are text are written twice. Looking into a value goes the same way as in expressions, so
nothing internal can be reached.
-/

namespace Stencil.Value

open Text

def openBrace : Char := '\x7b'

def closeBrace : Char := '\x7d'

structure Fillings where
  places : List Value
  names : List (String × Value)

/-- How places are chosen: not yet settled, by counting, or by number. -/
inductive Counting where
  | auto (next : Nat)
  | manual

def takeField : Nat → List Char → Eval (List Char × List Char)
  | 0, cs => return ([], cs)
  | _ + 1, [] => return ([], [])
  | fuel + 1, c :: rest => do
    if c == openBrace then
      Eval.refuse ("unexpected '" ++ String.singleton openBrace ++ "' in field name")
    else if c == closeBrace || c == ':' || c == '!' then return ([], c :: rest)
    else if c == '[' then
      let key := rest.takeWhile (· != ']')
      let (field, after) ← takeField fuel (rest.dropWhile (· != ']'))
      return (c :: (key ++ field), after)
    else
      let (field, after) ← takeField fuel rest
      return (c :: field, after)

/-- A layout up to the brace that closes its placeholder, and the text after that brace. -/
def takeLayout : Nat → List Char → Eval (List Char × List Char)
  | _, [] => Eval.refuse ("unmatched '" ++ String.singleton openBrace ++ "' in format spec")
  | depth, c :: rest => do
    if c == closeBrace then
      match depth with
      | 0 => return ([], rest)
      | depth + 1 =>
        let (spec, after) ← takeLayout depth rest
        return (c :: spec, after)
    else
      let (spec, after) ← takeLayout (if c == openBrace then depth + 1 else depth) rest
      return (c :: spec, after)

/-- A placeholder: the name of its field, a conversion letter and a layout. -/
structure Placeholder where
  field : List Char
  conversion : Option Char
  spec : List Char

def takePlaceholder (cs : List Char) : Eval (Placeholder × List Char) := do
  let (field, rest) ← takeField (cs.length + 1) cs
  match rest with
  | [] => Eval.refuse ("expected '" ++ String.singleton closeBrace ++ "' before end of string")
  | ':' :: rest => do
    let (spec, rest) ← takeLayout 0 rest
    return (⟨field, Option.none, spec⟩, rest)
  | '!' :: rest =>
    match rest with
    | [] => Eval.refuse "end of string while looking for conversion specifier"
    | [_] => Eval.refuse ("unmatched '" ++ String.singleton openBrace ++ "' in format spec")
    | c :: ':' :: rest => do
      let (spec, rest) ← takeLayout 0 rest
      return (⟨field, some c, spec⟩, rest)
    | c :: d :: rest =>
      if d == closeBrace then return (⟨field, some c, []⟩, rest)
      else Eval.refuse "expected ':' after conversion specifier"
  | _ :: rest => return (⟨field, Option.none, []⟩, rest)

inductive Step where
  | member (name : String)
  | item (key : Value)

def keyOf (cs : List Char) : Value :=
  if !cs.isEmpty && cs.all isDecimal then
    let n : Nat := Number.ofBase 10 (cs.filterMap decimalValue?)
    int n
  else text (String.ofList cs)

def takeSteps : Nat → List Char → Eval (List Step)
  | 0, _ => return []
  | _ + 1, [] => return []
  | fuel + 1, '.' :: rest => do
    let name := rest.takeWhile fun c => c != '.' && c != '['
    if name.isEmpty then Eval.refuse "Empty attribute in format string"
    else
      let steps ← takeSteps fuel (rest.dropWhile fun c => c != '.' && c != '[')
      return .member (String.ofList name) :: steps
  | fuel + 1, '[' :: rest => do
    let key := rest.takeWhile (· != ']')
    match rest.dropWhile (· != ']') with
    | [] => Eval.refuse "Missing ']' in format string"
    | _ :: after =>
      if key.isEmpty then Eval.refuse "Empty attribute in format string"
      else
        let steps ← takeSteps fuel after
        return .item (keyOf key) :: steps
  | _ + 1, _ => Eval.refuse "Only '.' or '[' may follow ']' in format field specifier"

def walk : Value → List Step → Eval Value
  | v, [] => return v
  | v, .member name :: rest => do walk (← v.memberOf name) rest
  | v, .item key :: rest => do walk (← v.subscript key) rest

def Fillings.get (f : Fillings) (first : List Char) : Eval Value := do
  match keyOf first with
  | int n =>
    match f.places[n.toNat]? with
    | some v => return v
    | Option.none => throw .outOfRange
  | _ =>
    let name := String.ofList first
    match f.names.lookup name with
    | some v => return v
    | Option.none => throw (.missingKey (Text.quote name))

def Fillings.field (f : Fillings) (counting : Counting) (field : List Char) :
    Eval (Value × Counting) := do
  let switched : Eval (Value × Counting) := Eval.refuse
    "cannot switch from manual field specification to automatic field numbering"
  let first := field.takeWhile fun c => c != '.' && c != '['
  let rest := field.dropWhile fun c => c != '.' && c != '['
  if field.isEmpty then
    match counting with
    | .manual => switched
    | .auto n => return (← f.get (Number.digits n), .auto (n + 1))
  else if rest.isEmpty && first.all isDigit then
    match counting with
    | .auto (_ + 1) => switched
    | _ => return (← f.get first, .manual)
  else
    let v ← f.get first
    return (← walk v (← takeSteps (rest.length + 1) rest), counting)

def converted (v : Value) : Option Char → Eval Value
  | Option.none => return v
  | some 's' => do return text (← display v)
  | some 'r' => do return text (← shown v)
  | some 'a' => do return text (Text.asciiOnly (← shown v))
  | some c => Eval.refuse ("Unknown conversion specifier " ++ String.singleton c)

def laidOutFor (guarded : Bool) (v : Value) (spec : List Char) : Eval (List Char) := do
  match guarded, v with
  | true, safe s =>
    if spec.isEmpty then return s.toList
    else Eval.refuse "Unsupported format specification for Markup."
  | true, _ => return Text.escapeByNumbers (← laidOut v spec)
  | false, _ => laidOut v spec

def fillWith (f : Fillings) (guarded : Bool) :
    Nat → Nat → Counting → List Char → Eval (List Char × Counting)
  | 0, _, _, _ => Eval.refuse "Max string recursion exceeded"
  | _, 0, counting, _ => return ([], counting)
  | _, _ + 1, counting, [] => return ([], counting)
  | depth + 1, fuel + 1, counting, c :: rest => do
    if c == openBrace || c == closeBrace then
      match rest with
      | d :: rest =>
        if d == c then
          let (tail, counting) ← fillWith f guarded (depth + 1) fuel counting rest
          return (c :: tail, counting)
        else if c == closeBrace then
          Eval.refuse ("Single '" ++ String.singleton c ++ "' encountered in format string")
        else
          let (p, after) ← takePlaceholder (d :: rest)
          let (v, counting) ← f.field counting p.field
          let v ← converted v p.conversion
          let (spec, counting) ← fillWith f false depth (p.spec.length + 1) counting p.spec
          let body ← laidOutFor guarded v spec
          let (tail, counting) ← fillWith f guarded (depth + 1) fuel counting after
          return (body ++ tail, counting)
      | [] => Eval.refuse ("Single '" ++ String.singleton c ++ "' encountered in format string")
    else
      let (tail, counting) ← fillWith f guarded (depth + 1) fuel counting rest
      return (c :: tail, counting)
termination_by depth fuel => (depth, fuel)

def fill (template : String) (guarded : Bool) (f : Fillings) : Eval String := do
  let cs := template.toList
  let (s, _) ← fillWith f guarded 3 (cs.length + 1) (.auto 0) cs
  return String.ofList s

end Stencil.Value
