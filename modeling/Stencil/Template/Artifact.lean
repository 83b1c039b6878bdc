import Stencil.Fault
import Stencil.Json.Basic
import Stencil.Number.Notation
import Stencil.Template.Instruction
/-!
# Artifacts

The JSON form of a compiled template. Reading one checks the shape of the instructions and nothing of
their fields: a field may hold any value. An empty text or an empty object does for an empty list.
-/

namespace Stencil

def formatVersion : Int := 1

namespace Instruction

mutual

/-- The JSON form of an instruction. -/
def toJson : Instruction Json → Json
  | literal text => .obj [("text", text), ("type", .str "literal")]
  | echo expr => .obj [("expr", expr), ("type", .str "echo")]
  | choose arms none =>
    .obj [("branches", .arr (armsToJson arms)), ("else", .null), ("type", .str "if")]
  | choose arms (some body) =>
    .obj [("branches", .arr (armsToJson arms)), ("else", .arr (allToJson body)),
      ("type", .str "if")]
  | loop iterable key value body =>
    .obj [("body", .arr (allToJson body)), ("iterable", iterable), ("key", key.getD .null),
      ("type", .str "foreach"), ("value", value)]
  | stray arm => armToJson arm

def armToJson : Arm Json → Json
  | .mk cond body => .obj [("body", .arr (allToJson body)), ("cond", cond)]

def armsToJson : List (Arm Json) → List Json
  | [] => []
  | arm :: rest => armToJson arm :: armsToJson rest

def allToJson : List (Instruction Json) → List Json
  | [] => []
  | i :: rest => toJson i :: allToJson rest

end

end Instruction

namespace Json

mutual

def shown : Json → String
  | null => "None"
  | bool true => "True"
  | bool false => "False"
  | int n => String.ofList (Number.signed n)
  | float x => Number.floatText x
  | str s => Text.quote s
  | arr items => "[" ++ String.intercalate ", " (shownItems items) ++ "]"
  | obj fields => "\x7b" ++ String.intercalate ", " (shownFields fields) ++ "\x7d"

def shownItems : List Json → List String
  | [] => []
  | v :: rest => shown v :: shownItems rest

def shownFields : List (String × Json) → List String
  | [] => []
  | (key, v) :: rest => (Text.quote key ++ ": " ++ shown v) :: shownFields rest

end

theorem sizeOf_field? {key : String} {fields : List (String × Json)} {v : Json}
    (h : field? key fields = some v) : sizeOf v < sizeOf fields := by
  fun_induction field? key fields with
  | case1 => simp at h
  | case2 => simp at h; subst h; simp; omega
  | case3 k w rest _ ih => have := ih h; simp; omega

def isVersion : Json → Bool
  | bool b => b
  | int n => n == formatVersion
  | float x => x == 1
  | _ => false

def require (key : String) (fields : List (String × Json)) : Except Fault { v : Json // sizeOf v < sizeOf fields } :=
  match h : field? key fields with
  | some v => .ok ⟨v, sizeOf_field? h⟩
  | none => .error (.missingKey (Text.quote key))

def present? (key : String) (fields : List (String × Json)) : Option { v : Json // sizeOf v < sizeOf fields } :=
  match h : field? key fields with
  | none | some .null => none
  | some v => some ⟨v, sizeOf_field? h⟩

end Json

namespace Instruction

mutual

/-- The instruction of a JSON value, when there is room for so many calls within each other. An instruction
takes one, a list of instructions two and a list of arms one. -/
def ofJson (room : Nat) (data : Json) : Except Fault (Instruction Json) := do
  let room ← nest room
  match data with
  | .obj fields =>
    match Json.field? "type" fields with
    | some (.str "literal") => do
      let text ← Json.require "text" fields
      .ok (.literal text.val)
    | some (.str "echo") => do
      let expr ← Json.require "expr" fields
      .ok (.echo expr.val)
    | some (.str "if") => do
      let arms ← Json.require "branches" fields
      have := arms.property
      let arms ← armsOfJson room arms.val
      match Json.present? "else" fields with
      | none => .ok (.choose arms none)
      | some body =>
        have := body.property
        let body ← bodyOfJson room body.val
        .ok (.choose arms (some body))
    | some (.str "foreach") => do
      let iterable ← Json.require "iterable" fields
      let key := (Json.present? "key" fields).map (·.val)
      let value ← Json.require "value" fields
      let body ← Json.require "body" fields
      have := body.property
      let body ← bodyOfJson room body.val
      .ok (.loop iterable.val key value.val body)
    | some kind => .error (.badValue (.instructionType kind.shown))
    | none => .error (.badValue (.instructionType Json.null.shown))
  | _ => .error .noAttribute
termination_by sizeOf data
decreasing_by all_goals simp; omega

def armOfJson (room : Nat) (data : Json) : Except Fault (Arm Json) :=
  match data with
  | .obj fields => do
    let cond ← Json.require "cond" fields
    let body ← Json.require "body" fields
    have := body.property
    let body ← bodyOfJson room body.val
    .ok (.mk cond.val body)
  | _ => .error .wrongType
termination_by sizeOf data
decreasing_by simp; omega

def armsOfJson (room : Nat) (data : Json) : Except Fault (List (Arm Json)) := do
  let room ← nest room
  match data with
  | .arr items => armsOfItems room items
  | .str s => if s.isEmpty then .ok [] else .error .wrongType
  | .obj fields => if fields.isEmpty then .ok [] else .error .wrongType
  | _ => .error .wrongType
termination_by sizeOf data

def armsOfItems (room : Nat) (items : List Json) : Except Fault (List (Arm Json)) :=
  match items with
  | [] => .ok []
  | item :: rest => do
    let arm ← armOfJson room item
    let arms ← armsOfItems room rest
    .ok (arm :: arms)
termination_by sizeOf items

def bodyOfJson (room : Nat) (data : Json) : Except Fault (List (Instruction Json)) := do
  let room ← nest room
  let room ← nest room
  match data with
  | .arr items => bodyOfItems room items
  | .str s => if s.isEmpty then .ok [] else .error .noAttribute
  | .obj fields => if fields.isEmpty then .ok [] else .error .noAttribute
  | _ => .error .wrongType
termination_by sizeOf data

def bodyOfItems (room : Nat) (items : List Json) : Except Fault (List (Instruction Json)) :=
  match items with
  | [] => .ok []
  | item :: rest => do
    let i ← ofJson room item
    let is ← bodyOfItems room rest
    .ok (i :: is)
termination_by sizeOf items

end

end Instruction

namespace Template

/-- The JSON form of a compiled template. -/
def toJson (body : List (Instruction Json)) : Json :=
  .obj [("nodes", .arr (Instruction.allToJson body)), ("version", .int formatVersion)]

/-- The compiled template of a JSON value. -/
def ofJson (room : Nat) : Json → Except Fault (List (Instruction Json))
  | .obj fields =>
    match Json.field? "version" fields with
    | none => .error (.badValue (.artifactVersion Json.null.shown))
    | some version =>
      if version.isVersion then do
        let nodes ← Json.require "nodes" fields
        Instruction.bodyOfJson room nodes.val
      else .error (.badValue (.artifactVersion version.shown))
  | _ => .error .noAttribute

end Template

end Stencil
