import Stencil.Proofs.Template.Instruction
import Stencil.Template.Compile
/-!
# Room for a tree

Rebuilding a tree takes calls within each other, and writing it takes brackets within each other. Both are
counted here along the tree. A tree of texts that can be rebuilt can be written as well.
-/

namespace Stencil.Instruction

variable {φ ψ : Type}

mutual

/-- The calls within each other that rebuild an instruction, counted in the way of `ofJson`. -/
def calls : Instruction φ → Nat
  | literal _ => 1
  | echo _ => 1
  | choose arms none => callsArms arms + 2
  | choose arms (some body) => max (callsArms arms + 2) (callsAll body + 3)
  | loop _ _ _ body => callsAll body + 3
  | stray _ => 0

def callsArms : List (Arm φ) → Nat
  | [] => 0
  | .mk _ body :: rest => max (callsAll body + 2) (callsArms rest)

def callsAll : List (Instruction φ) → Nat
  | [] => 0
  | i :: rest => max (calls i) (callsAll rest)

end

theorem callsAll_le_iff {body : List (Instruction φ)} {n : Nat} :
    callsAll body ≤ n ↔ ∀ i ∈ body, calls i ≤ n := by
  induction body with
  | nil => simp [callsAll]
  | cons i rest ih => simp [callsAll, Nat.max_le, ih]

theorem callsArms_le_iff {arms : List (Arm φ)} {n : Nat} :
    callsArms arms ≤ n ↔ ∀ cond body, .mk cond body ∈ arms → callsAll body + 2 ≤ n := by
  induction arms with
  | nil => simp [callsArms]
  | cons arm rest ih =>
    obtain ⟨c, b⟩ := arm
    simp only [callsArms, Nat.max_le, ih, List.mem_cons]
    constructor
    · rintro ⟨hhead, hrest⟩ cond body (heq | hmem)
      · obtain ⟨-, rfl⟩ := Arm.mk.inj heq
        exact hhead
      · exact hrest cond body hmem
    · exact fun h => ⟨h c b (.inl rfl), fun cond body hmem => h cond body (.inr hmem)⟩

mutual

@[simp] theorem calls_map (f : φ → ψ) : ∀ i : Instruction φ, calls (map f i) = calls i
  | literal _ => rfl
  | echo _ => rfl
  | choose arms none => by simp only [map, calls, callsArms_map f arms]
  | choose arms (some body) => by simp only [map, calls, callsArms_map f arms, callsAll_map f body]
  | loop _ _ _ body => by simp only [map, calls, callsAll_map f body]
  | stray _ => rfl

@[simp] theorem callsArms_map (f : φ → ψ) : ∀ arms : List (Arm φ), callsArms (mapArms f arms) = callsArms arms
  | [] => rfl
  | .mk _ body :: rest => by simp only [mapArms, mapArm, callsArms, callsAll_map f body, callsArms_map f rest]

@[simp] theorem callsAll_map (f : φ → ψ) : ∀ body : List (Instruction φ), callsAll (mapAll f body) = callsAll body
  | [] => rfl
  | i :: rest => by simp only [mapAll, callsAll, calls_map f i, callsAll_map f rest]

end

@[simp] theorem depth_literal (text : Json) : (toJson (.literal text)).depth = text.depth + 1 := by
  simp [toJson, Json.depth, Json.depthFields]

@[simp] theorem depth_echo (expr : Json) : (toJson (.echo expr)).depth = expr.depth + 1 := by
  simp [toJson, Json.depth, Json.depthFields]

@[simp] theorem depth_choose (arms : List (Arm Json)) :
    (toJson (.choose arms none)).depth = Json.depthItems (armsToJson arms) + 2 := by
  simp [toJson, Json.depth, Json.depthFields]

@[simp] theorem depth_chooseElse (arms : List (Arm Json)) (body : List (Instruction Json)) :
    (toJson (.choose arms (some body))).depth =
      max (Json.depthItems (armsToJson arms)) (Json.depthItems (allToJson body)) + 2 := by
  simp [toJson, Json.depth, Json.depthFields]

@[simp] theorem depth_loop (iterable : Json) (key : Option Json) (value : Json) (body : List (Instruction Json)) :
    (toJson (.loop iterable key value body)).depth =
      max (Json.depthItems (allToJson body) + 1) (max iterable.depth (max (key.getD .null).depth value.depth)) + 1 := by
  simp [toJson, Json.depth, Json.depthFields]

@[simp] theorem depth_arm (cond : Json) (body : List (Instruction Json)) :
    (armToJson (.mk cond body)).depth = max (Json.depthItems (allToJson body) + 1) cond.depth + 1 := by
  simp [armToJson, Json.depth, Json.depthFields]

mutual

theorem depth_toJson_le {q : Json → Prop} :
    ∀ i : Instruction Json, Sound (·.depth = 0) q i → (toJson i).depth ≤ calls i
  | literal text, h => by
    have htext : text.depth = 0 := h
    exact Nat.le_of_eq (by rw [depth_literal, htext, calls])
  | echo expr, h => by
    have hexpr : expr.depth = 0 := h
    exact Nat.le_of_eq (by rw [depth_echo, hexpr, calls])
  | choose arms none, h => by
    have harms := depthItems_armsToJson_le arms h
    rw [depth_choose, calls]
    omega
  | choose arms (some body), h => by
    have harms := depthItems_armsToJson_le arms h.1
    have hbody := depthItems_allToJson_le body h.2
    rw [depth_chooseElse, calls]
    omega
  | loop _ key _ body, ⟨hiterable, hkey, hvalue, hbody⟩ => by
    have hbody := depthItems_allToJson_le body hbody
    have hkey : (key.getD .null).depth = 0 := by
      cases key with
      | none => rfl
      | some k => exact (hkey k rfl).1
    rw [depth_loop, hiterable, hkey, hvalue, calls]
    omega
  | stray _, h => h.elim

theorem depthItems_armsToJson_le {q : Json → Prop} :
    ∀ arms : List (Arm Json), SoundArms (·.depth = 0) q arms → Json.depthItems (armsToJson arms) ≤ callsArms arms
  | [], _ => Nat.le_refl 0
  | .mk cond body :: rest, ⟨hcond, hbody, hrest⟩ => by
    have hbody := depthItems_allToJson_le body hbody
    have hrest := depthItems_armsToJson_le rest hrest
    rw [armsToJson, Json.depthItems, depth_arm, hcond, callsArms]
    omega

theorem depthItems_allToJson_le {q : Json → Prop} :
    ∀ body : List (Instruction Json), SoundAll (·.depth = 0) q body → Json.depthItems (allToJson body) ≤ callsAll body
  | [], _ => Nat.le_refl 0
  | i :: rest, ⟨hi, hrest⟩ => by
    have hi := depth_toJson_le i hi
    have hrest := depthItems_allToJson_le rest hrest
    rw [allToJson, Json.depthItems, callsAll]
    omega

end

end Stencil.Instruction

namespace Stencil.Template

open Instruction

/-- The calls within each other that rebuild a compiled template. -/
def calls {φ : Type} (body : List (Instruction φ)) : Nat := callsAll body + 2

@[simp] theorem calls_map {φ ψ : Type} (f : φ → ψ) (body : List (Instruction φ)) :
    calls (mapAll f body) = calls body := by
  rw [calls, callsAll_map, calls]

@[simp] theorem depth_toJson (body : List (Instruction Json)) :
    (toJson body).depth = Json.depthItems (allToJson body) + 2 := by
  simp [toJson, Json.depth, Json.depthFields]

theorem depth_toJson_le {body : List (Instruction Json)} {q : Json → Prop} (h : SoundAll (·.depth = 0) q body) :
    (toJson body).depth ≤ calls body := by
  rw [depth_toJson]
  exact Nat.add_le_add_right (depthItems_allToJson_le body h) 2

end Stencil.Template
