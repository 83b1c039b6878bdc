/-!
# Instructions

A compiled template is a list of instructions, some with bodies of their own. The fields are texts when
the instructions come from a template, and any JSON values when they come from an artifact.
-/

namespace Stencil

mutual

/-- One instruction. A choice has arms that are tried in order and may end with a body for the case
that none is taken. A stray arm stands where an instruction belongs and cannot be run. -/
inductive Instruction (φ : Type) where
  | literal (text : φ)
  | echo (expr : φ)
  | choose (arms : List (Arm φ)) (otherwise : Option (List (Instruction φ)))
  | loop (iterable : φ) (key : Option φ) (value : φ) (body : List (Instruction φ))
  | stray (arm : Arm φ)

inductive Arm (φ : Type) where
  | mk (cond : φ) (body : List (Instruction φ))

end

deriving instance Repr for Instruction, Arm

namespace Instruction

mutual

def map {φ ψ : Type} (f : φ → ψ) : Instruction φ → Instruction ψ
  | literal text => literal (f text)
  | echo expr => echo (f expr)
  | choose arms none => choose (mapArms f arms) none
  | choose arms (some body) => choose (mapArms f arms) (some (mapAll f body))
  | loop iterable key value body => loop (f iterable) (key.map f) (f value) (mapAll f body)
  | stray arm => stray (mapArm f arm)

def mapArm {φ ψ : Type} (f : φ → ψ) : Arm φ → Arm ψ
  | .mk cond body => .mk (f cond) (mapAll f body)

def mapArms {φ ψ : Type} (f : φ → ψ) : List (Arm φ) → List (Arm ψ)
  | [] => []
  | arm :: rest => mapArm f arm :: mapArms f rest

def mapAll {φ ψ : Type} (f : φ → ψ) : List (Instruction φ) → List (Instruction ψ)
  | [] => []
  | i :: rest => map f i :: mapAll f rest

end

end Instruction

abbrev Body := List (Instruction String)

end Stencil
