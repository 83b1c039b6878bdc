import Stencil.Template.Instruction
/-!
# Fields of instructions

What holds of all fields of an instruction, and how a function applied to the fields acts on it.
-/

namespace Stencil.Instruction

variable {φ ψ : Type}

mutual

def Sound (p q : φ → Prop) : Instruction φ → Prop
  | literal text => p text
  | echo expr => p expr
  | choose arms none => SoundArms p q arms
  | choose arms (some body) => SoundArms p q arms ∧ SoundAll p q body
  | loop iterable key value body =>
    p iterable ∧ (∀ k ∈ key, p k ∧ q k) ∧ p value ∧ SoundAll p q body
  | stray _ => False

def SoundArms (p q : φ → Prop) : List (Arm φ) → Prop
  | [] => True
  | .mk cond body :: rest => p cond ∧ SoundAll p q body ∧ SoundArms p q rest

def SoundAll (p q : φ → Prop) : List (Instruction φ) → Prop
  | [] => True
  | i :: rest => Sound p q i ∧ SoundAll p q rest

end

variable {p q : φ → Prop}

theorem soundAll_iff {body : List (Instruction φ)} : SoundAll p q body ↔ ∀ i ∈ body, Sound p q i := by
  induction body with
  | nil => simp [SoundAll]
  | cons i rest ih => rw [SoundAll, ih, List.forall_mem_cons]

theorem soundArms_concat {arms : List (Arm φ)} {cond : φ} {body : List (Instruction φ)}
    (ha : SoundArms p q arms) (hc : p cond) (hb : SoundAll p q body) :
    SoundArms p q (arms ++ [.mk cond body]) := by
  induction arms with
  | nil => exact ⟨hc, hb, trivial⟩
  | cons arm rest ih =>
    obtain ⟨c, b⟩ := arm
    exact ⟨ha.1, ha.2.1, ih ha.2.2⟩

/-- A body in which no arm stands astray, at any depth. -/
def Proper (body : List (Instruction φ)) : Prop := SoundAll (fun _ => True) (fun _ => True) body

mutual

theorem sound_map {f : φ → ψ} {p q : φ → Prop} {r t : ψ → Prop} (hp : ∀ x, p x → r (f x))
    (hq : ∀ x, q x → t (f x)) : ∀ i : Instruction φ, Sound p q i → Sound r t (map f i)
  | literal text, h => hp text h
  | echo expr, h => hp expr h
  | choose arms none, h => soundArms_map hp hq arms h
  | choose arms (some body), h => ⟨soundArms_map hp hq arms h.1, soundAll_map hp hq body h.2⟩
  | loop iterable key value body, h => by
    obtain ⟨hi, hk, hv, hb⟩ := h
    refine ⟨hp iterable hi, ?_, hp value hv, soundAll_map hp hq body hb⟩
    intro k hm
    obtain ⟨x, hx, rfl⟩ := Option.map_eq_some_iff.1 hm
    exact ⟨hp x (hk x hx).1, hq x (hk x hx).2⟩
  | stray _, h => h.elim

theorem soundArms_map {f : φ → ψ} {p q : φ → Prop} {r t : ψ → Prop} (hp : ∀ x, p x → r (f x))
    (hq : ∀ x, q x → t (f x)) :
    ∀ arms : List (Arm φ), SoundArms p q arms → SoundArms r t (mapArms f arms)
  | [], _ => trivial
  | .mk cond body :: rest, h =>
    ⟨hp cond h.1, soundAll_map hp hq body h.2.1, soundArms_map hp hq rest h.2.2⟩

theorem soundAll_map {f : φ → ψ} {p q : φ → Prop} {r t : ψ → Prop} (hp : ∀ x, p x → r (f x))
    (hq : ∀ x, q x → t (f x)) :
    ∀ body : List (Instruction φ), SoundAll p q body → SoundAll r t (mapAll f body)
  | [], _ => trivial
  | i :: rest, h => ⟨sound_map hp hq i h.1, soundAll_map hp hq rest h.2⟩

end

variable {χ : Type}

mutual

@[simp] theorem map_map (g : ψ → χ) (f : φ → ψ) :
    ∀ i : Instruction φ, map g (map f i) = map (g ∘ f) i
  | literal _ => rfl
  | echo _ => rfl
  | choose arms none => by simp only [map, mapArms_mapArms g f arms]
  | choose arms (some body) => by simp only [map, mapArms_mapArms g f arms, mapAll_mapAll g f body]
  | loop iterable key value body => by
    simp only [map, mapAll_mapAll g f body, Option.map_map, Function.comp]
  | stray (.mk cond body) => by
    simp only [map, mapArm, mapAll_mapAll g f body, Function.comp]

@[simp] theorem mapArms_mapArms (g : ψ → χ) (f : φ → ψ) :
    ∀ arms : List (Arm φ), mapArms g (mapArms f arms) = mapArms (g ∘ f) arms
  | [] => rfl
  | .mk cond body :: rest => by
    simp only [mapArms, mapArm, mapAll_mapAll g f body, mapArms_mapArms g f rest, Function.comp]

@[simp] theorem mapAll_mapAll (g : ψ → χ) (f : φ → ψ) :
    ∀ body : List (Instruction φ), mapAll g (mapAll f body) = mapAll (g ∘ f) body
  | [] => rfl
  | i :: rest => by simp only [mapAll, map_map g f i, mapAll_mapAll g f rest]

end

mutual

@[simp] theorem map_id : ∀ i : Instruction φ, map id i = i
  | literal _ => rfl
  | echo _ => rfl
  | choose arms none => by simp only [map, mapArms_id arms]
  | choose arms (some body) => by simp only [map, mapArms_id arms, mapAll_id body]
  | loop iterable key value body => by simp only [map, mapAll_id body, Option.map_id, id]
  | stray (.mk cond body) => by simp only [map, mapArm, mapAll_id body, id]

@[simp] theorem mapArms_id : ∀ arms : List (Arm φ), mapArms id arms = arms
  | [] => rfl
  | .mk cond body :: rest => by simp only [mapArms, mapArm, mapAll_id body, mapArms_id rest, id]

@[simp] theorem mapAll_id : ∀ body : List (Instruction φ), mapAll id body = body
  | [] => rfl
  | i :: rest => by simp only [mapAll, map_id i, mapAll_id rest]

end

end Stencil.Instruction
