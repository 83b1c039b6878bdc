import Stencil.Proofs.Expression.Reader
import Stencil.Render.Run
/-!
# Only free names matter

A name is free in a body when some expression of the body holds it outside the loops that bind it. Rendering a
body looks at a scope through the free names of the body, so more bindings change nothing, nor do those that a
loop hides wherever they would be read.
-/

namespace Stencil

variable {σ ν : Type} {L : Language σ ν} {occurs : String → String → Prop}

structure Scope.Alike {ν : Type} (s t : Scope ν) : Prop where
  find : ∀ name, s.find? name = t.find? name
  spoiled : s.spoiled = t.spoiled

/-- The value of an expression depends on the bindings of the names that occur in its text. -/
def Language.LooksAt (L : Language σ ν) (occurs : String → String → Prop) : Prop :=
  ∀ text c, L.compile text = .ok c → ∀ s t : Scope ν, s.AgreeOn (occurs text) t → L.value c s = L.value c t

theorem Language.LooksAt.mono {more : String → String → Prop} (h : L.LooksAt occurs)
    (hmore : ∀ text name, occurs text name → more text name) : L.LooksAt more :=
  fun text c hc s t hst => h text c hc s t (hst.mono (hmore text))

namespace Instruction

def OccursIn (occurs : String → String → Prop) (name : String) (field : Json) : Prop :=
  ∃ text, field = .str text ∧ occurs text name

def Binds (key : Option Json) (value : Json) (name : String) : Prop :=
  key = some (.str name) ∨ value = .str name

mutual

/-- A name is free in an instruction: it occurs in an expression that is not in the body of a loop that binds
it. Nothing is evaluated in a stray arm. -/
def FreeIn (occurs : String → String → Prop) (name : String) : Instruction Json → Prop
  | .literal _ => False
  | .echo expr => OccursIn occurs name expr
  | .choose arms none => FreeInArms occurs name arms
  | .choose arms (some body) => FreeInArms occurs name arms ∨ FreeInAll occurs name body
  | .loop iterable key value body =>
    OccursIn occurs name iterable ∨ ¬Binds key value name ∧ FreeInAll occurs name body
  | .stray _ => False

def FreeInArms (occurs : String → String → Prop) (name : String) : List (Arm Json) → Prop
  | [] => False
  | .mk cond body :: rest =>
    OccursIn occurs name cond ∨ FreeInAll occurs name body ∨ FreeInArms occurs name rest

/-- A name is free in one of the instructions. -/
def FreeInAll (occurs : String → String → Prop) (name : String) : List (Instruction Json) → Prop
  | [] => False
  | i :: rest => FreeIn occurs name i ∨ FreeInAll occurs name rest

end

end Instruction

namespace Render

open Instruction

theorem compiled_of_code {expr : String} {c : L.Code} {s s' : Session L}
    (h : (Session.code expr : Rendering L L.Code) s = .ok c s') : L.compile expr = .ok c := by
  have hanswer := s.memo.answer_fst expr
  unfold Session.code at h
  split at h
  · next heq =>
    obtain ⟨rfl, -⟩ := EStateM.Result.ok.inj h
    rw [← hanswer, heq]
  · cases h

variable {s t : Scope ν}

theorem evaluate_agree (hL : L.LooksAt occurs) {expr : String} (h : s.AgreeOn (occurs expr) t) :
    (Session.evaluate s expr : Rendering L ν) = Session.evaluate t expr := by
  funext session
  rw [Session.evaluate, Session.evaluate, bind_run, bind_run]
  -- the code comes from the memo, which holds what the text compiles to
  cases hc : (Session.code expr : Rendering L L.Code) session with
  | ok c session' => exact congrArg (Session.lift · session') (hL expr c (compiled_of_code hc) s t h)
  | error => rfl

theorem evaluateField_agree (hL : L.LooksAt occurs) {expr : Json}
    (h : s.AgreeOn (fun name => OccursIn occurs name expr) t) :
    (evaluateField s expr : Rendering L ν) = evaluateField t expr := by
  cases expr with
  | str text =>
    have hname : s.AgreeOn (occurs text) t := h.mono fun _ hn => ⟨text, rfl, hn⟩
    show (pure text >>= fun text => Session.evaluate s text : Rendering L ν) = (pure text >>= fun text => _)
    rw [pure_bind, pure_bind, evaluate_agree hL hname]
  | null | bool | int | float | arr | obj => rfl

variable {α : Type} {P : String → Prop} {f g : Scope ν → Rendering L α}

theorem bindField_agree {name : Json} (h : s.AgreeOn (fun other => name ≠ .str other ∧ P other) t)
    (hfg : ∀ {s t : Scope ν}, s.AgreeOn P t → f s = g t) (v : ν) :
    (bindField s name v >>= f) = (bindField t name v >>= g) := by
  unfold bindField
  split
  · next text =>
    have hother : s.AgreeOn (fun other => other ≠ text ∧ P other) t :=
      h.mono fun other ho => ⟨fun heq => ho.1 (Json.str.inj heq).symm, ho.2⟩
    exact hfg (hother.bind v)
  · rfl
  · rfl
  · next hstr _ _ =>
    exact hfg (h.mono fun other ho => ⟨hstr other, ho⟩).spoil

theorem bindPair_agree {key : Option Json} {value : Json}
    (h : s.AgreeOn (fun name => ¬Binds key value name ∧ P name) t)
    (hfg : ∀ {s t : Scope ν}, s.AgreeOn P t → f s = g t) (pair : ν × ν) :
    (bindPair s key value pair >>= f) = (bindPair t key value pair >>= g) := by
  cases key with
  | none =>
    refine bindField_agree (h.mono fun name hn => ⟨fun hb => ?_, hn.2⟩) hfg pair.2
    exact hb.elim nofun hn.1
  | some keyName =>
    -- the value is bound after the key, so a name that is the value's need not agree before either
    simp only [bindPair, bind_assoc]
    refine bindField_agree (P := fun name => value ≠ .str name ∧ P name)
      (h.mono fun name hn => ⟨fun hb => ?_, hn.2.2⟩) (fun h => bindField_agree h hfg pair.2) pair.1
    exact hb.elim (fun heq => hn.1 (Option.some.inj heq)) hn.2.1

mutual

theorem run_agree (hL : L.LooksAt occurs) : ∀ (i : Instruction Json) {s t : Scope ν},
    s.AgreeOn (fun name => FreeIn occurs name i) t → (run s i : Rendering L String) = run t i
  | .literal _, _, _, _ => by rw [run, run]
  | .echo expr, _, _, h => by rw [run, run, evaluateField_agree hL h]
  | .choose arms none, _, _, h => by rw [run, run, runArms_agree hL arms h, runOtherwise, runOtherwise]
  | .choose arms (some body), _, _, h => by
    have harms := runArms_agree hL arms (h.mono fun _ hn => .inl hn)
    have hbody := runAll_agree hL body (h.mono fun _ hn => .inr hn)
    rw [run, run, harms]
    simp only [runOtherwise, hbody]
  | .loop iterable key value body, s, t, h => by
    have hstep : (fun pair => bindPair s key value pair >>= fun inner => runAll inner body) =
        fun pair => (bindPair t key value pair >>= fun inner => runAll inner body : Rendering L String) :=
      funext (bindPair_agree (h.mono fun _ hn => .inr hn) (runAll_agree hL body))
    rw [run, run, evaluateField_agree hL (h.mono fun _ hn => .inl hn), hstep]
  | .stray _, _, _, _ => by rw [run, run]

theorem runArms_agree (hL : L.LooksAt occurs) : ∀ (arms : List (Arm Json)) {s t : Scope ν},
    s.AgreeOn (fun name => FreeInArms occurs name arms) t →
      (runArms s arms : Rendering L (Option String)) = runArms t arms
  | [], _, _, _ => by rw [runArms, runArms]
  | .mk cond body :: rest, _, _, h => by
    rw [runArms, runArms, evaluateField_agree hL (h.mono fun _ hn => .inl hn),
      runAll_agree hL body (h.mono fun _ hn => .inr (.inl hn)),
      runArms_agree hL rest (h.mono fun _ hn => .inr (.inr hn))]

theorem runAll_agree (hL : L.LooksAt occurs) : ∀ (body : List (Instruction Json)) {s t : Scope ν},
    s.AgreeOn (fun name => FreeInAll occurs name body) t → (runAll s body : Rendering L String) = runAll t body
  | [], _, _, _ => by rw [runAll, runAll]
  | i :: rest, _, _, h => by
    rw [runAll, runAll, run_agree hL i (h.mono fun _ hn => .inl hn),
      runAll_agree hL rest (h.mono fun _ hn => .inr hn)]

end

theorem looksAt_identifiers :
    Expression.language.LooksAt fun text name => name ∈ Expression.identifiers text := by
  intro text e he s t h
  exact Expression.value_agree h (Expression.namesIn_identifiers he)

abbrev Evaluation := Rendering Expression.language

/-- Scopes under which each name has the same value give the same output, or the same fault, and leave the same
session. So the layers in which names were bound do not show. -/
theorem runAll_alike (hL : L.LooksAt occurs) (body : List (Instruction Json)) (h : s.Alike t) :
    (runAll s body : Rendering L String) = runAll t body :=
  runAll_agree hL body ⟨fun name _ => h.find name, h.spoiled⟩

/-- Only free names matter. Two scopes that agree on the free names of a body give the same output or the same
fault in every session, and leave the same session. So one more binding changes nothing when its name is not
free, be it new or hidden by loops wherever it would be read. -/
theorem runAll_free_names (hL : L.LooksAt occurs) (body : List (Instruction Json)) :
    (∀ s t : Scope ν, s.spoiled = t.spoiled →
      (∀ name, FreeInAll occurs name body → s.find? name = t.find? name) →
      (runAll s body : Rendering L String) = runAll t body) ∧
    (∀ (s : Scope ν) (name : String) (v : ν), ¬FreeInAll occurs name body →
      (runAll (s.bind name v) body : Rendering L String) = runAll s body) := by
  constructor
  · intro s t hspoiled hfind
    exact runAll_agree hL body ⟨hfind, hspoiled⟩
  · intro s name v hfree
    refine runAll_agree hL body ⟨fun other hother => ?_, rfl⟩
    rw [Scope.find?_bind, if_neg]
    rintro rfl
    exact hfree hother

theorem runAll_free_names_sample :
    let occurs := fun text name => name ∈ Expression.identifiers text
    let body : List (Instruction Json) := [.loop (.str "xs") none (.str "v") [.echo (.str "v")]]
    Expression.language.LooksAt occurs ∧ ¬FreeInAll occurs "v" body ∧ FreeInAll occurs "xs" body ∧
      (runAll (Scope.ofList [("xs", .tuple [.text "a"]), ("v", .int 1)]) body :
          Evaluation String) =
        runAll (Scope.ofList [("xs", .tuple [.text "a"])]) body := by
  intro occurs body
  have hxs : Expression.identifiers "xs" = ["xs"] := by decide +kernel
  have hv : ¬FreeInAll occurs "v" body := by
    rintro ((⟨text, htext, hmem⟩ | ⟨hbinds, -⟩) | hnone)
    · obtain rfl := Json.str.inj htext
      have hname : "v" ∈ Expression.identifiers "xs" := hmem
      rw [hxs] at hname
      exact absurd (List.mem_singleton.1 hname) (by decide)
    · exact hbinds (.inr rfl)
    · exact hnone
  have hfree : FreeInAll occurs "xs" body := by
    have hname : "xs" ∈ Expression.identifiers "xs" := by rw [hxs]; exact List.mem_singleton.2 rfl
    exact .inl (.inl ⟨"xs", rfl, hname⟩)
  exact ⟨looksAt_identifiers, hv, hfree,
    (runAll_free_names looksAt_identifiers body).2 (Scope.ofList [("xs", .tuple [.text "a"])]) "v"
      (.int 1) hv⟩

end Render

end Stencil
