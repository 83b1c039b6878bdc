import Stencil.Value.Basic
/-!
# Arguments

The values given to a method, a function, a filter or a test, by position and by name, and how they meet
the parameters.
-/

namespace Stencil.Value

structure Arguments where
  places : List Value
  names : List (String × Value)
deriving Inhabited

/-- A parameter: its name and the value that counts when none is given. -/
structure Parameter where
  name : String
  standard : Option Value

namespace Arguments

def needed (name : String) : Parameter := ⟨name, Option.none⟩

def optional (name : String) (standard : Value) : Parameter := ⟨name, some standard⟩

def meet : List Parameter → List Value → List (String × Value) → Option (List Value)
  | [], [], names => if names.isEmpty then some [] else Option.none
  | [], _ :: _, _ => Option.none
  | p :: ps, v :: vs, names =>
    if (names.lookup p.name).isSome then Option.none else (meet ps vs names).map (v :: ·)
  | p :: ps, [], names =>
    match names.lookup p.name, p.standard with
    | some v, _ => (meet ps [] (names.filter (·.1 != p.name))).map (v :: ·)
    | Option.none, some v => (meet ps [] names).map (v :: ·)
    | Option.none, Option.none => Option.none

def bind (a : Arguments) (ps : List Parameter) : Eval (List Value) :=
  match meet ps a.places a.names with
  | some vs => return vs
  | Option.none => throw .wrongType

def placed (a : Arguments) (ps : List Parameter) : Eval (List Value) :=
  match if a.names.isEmpty then meet ps a.places [] else Option.none with
  | some vs => return vs
  | Option.none => throw .wrongType

end Arguments

end Stencil.Value
