import Stencil.Proofs.Run
import Stencil.Render.Run
/-!
# Rendering does not look at the memo

An answer from the memo is the answer of the compiler. So two sessions with the same store give the same
output, or fail alike, and have the same store afterwards, whatever their memos hold.
-/

namespace Stencil

namespace Session

variable {σ ν α β : Type} {L : Language σ ν}

/-- What a computation gives, and the store that it leaves. -/
def outcome : EStateM.Result Fault (Session L) α → Except Fault α × σ
  | .ok a s => (.ok a, s.store)
  | .error fault s => (.error fault, s.store)

def Indifferent (x : Rendering L α) : Prop :=
  ∀ s t : Session L, s.store = t.store → outcome (x s) = outcome (x t)

theorem indifferent_pure (a : α) : Indifferent (pure a : Rendering L α) := by
  intro s t h
  exact congrArg (Prod.mk _) h

theorem indifferent_throw (fault : Fault) : Indifferent (throw fault : Rendering L α) := by
  intro s t h
  exact congrArg (Prod.mk _) h

theorem Indifferent.bind {x : Rendering L α} {f : α → Rendering L β} (hx : Indifferent x)
    (hf : ∀ a, Indifferent (f a)) : Indifferent (x >>= f) := by
  intro s t h
  have hout := hx s t h
  rw [bind_run, bind_run]
  cases hs : x s with
  | ok a s' =>
    cases ht : x t with
    | ok b t' =>
      rw [hs, ht] at hout
      obtain ⟨hab, hstore⟩ := Prod.mk.inj hout
      obtain rfl := Except.ok.inj hab
      exact hf a s' t' hstore
    | error fault t' =>
      rw [hs, ht] at hout
      cases (Prod.mk.inj hout).1
  | error fault s' =>
    cases ht : x t with
    | ok b t' =>
      rw [hs, ht] at hout
      cases (Prod.mk.inj hout).1
    | error other t' =>
      rw [hs, ht] at hout
      obtain ⟨hfault, hstore⟩ := Prod.mk.inj hout
      obtain rfl := Except.error.inj hfault
      exact congrArg (Prod.mk _) hstore

theorem indifferent_lift (x : EStateM Fault σ α) : Indifferent (lift x : Rendering L α) := by
  intro s t h
  unfold lift
  rw [h]
  cases x t.store <;> rfl

theorem lift_ok {x : EStateM Fault σ α} {a : α} {s : Session L} {store : σ}
    (h : x s.store = .ok a store) : lift x s = .ok a { s with store } := by
  rw [lift, h]

theorem lift_error {x : EStateM Fault σ α} {fault : Fault} {s : Session L} {store : σ}
    (h : x s.store = .error fault store) : lift x s = .error fault { s with store } := by
  rw [lift, h]

theorem outcome_code (expr : String) (s : Session L) :
    outcome (code expr s) = (L.compile expr, s.store) := by
  have h := s.memo.answer_fst expr
  unfold code
  generalize s.memo.answer expr = answer at h
  obtain ⟨result, memo⟩ := answer
  subst h
  cases L.compile expr <;> rfl

theorem outcome_evaluate (scope : Scope ν) (expr : String) (s : Session L) :
    outcome (evaluate scope expr s) =
      match L.compile expr with
      | .ok code =>
        match L.value code scope s.store with
        | .ok v store => (.ok v, store)
        | .error fault store => (.error fault, store)
      | .error fault => (.error fault, s.store) := by
  have hcode := outcome_code expr s
  rw [evaluate, bind_run]
  cases hrun : code expr s with
  | error fault t =>
    rw [hrun] at hcode
    obtain ⟨hfault, hstore⟩ := Prod.mk.inj hcode
    rw [← hfault, ← hstore]
    rfl
  | ok c t =>
    rw [hrun] at hcode
    obtain ⟨hc, hstore⟩ := Prod.mk.inj hcode
    rw [← hc, ← hstore]
    dsimp only
    unfold lift
    cases L.value c scope t.store <;> rfl

theorem indifferent_evaluate (scope : Scope ν) (expr : String) :
    Indifferent (evaluate scope expr : Rendering L ν) := by
  intro s t h
  rw [outcome_evaluate, outcome_evaluate, h]

end Session

namespace Render

open Session

variable {σ ν : Type} {L : Language σ ν}

theorem indifferent_fieldText (field : Json) : Indifferent (fieldText field : Rendering L String) := by
  unfold fieldText
  split
  · exact indifferent_pure _
  · exact indifferent_throw _

theorem indifferent_evaluateField (scope : Scope ν) (expr : Json) :
    Indifferent (evaluateField scope expr : Rendering L ν) :=
  (indifferent_fieldText expr).bind fun text => indifferent_evaluate scope text

theorem indifferent_bindField (scope : Scope ν) (name : Json) (v : ν) :
    Indifferent (bindField scope name v : Rendering L (Scope ν)) := by
  unfold bindField
  split
  · exact indifferent_pure _
  · exact indifferent_throw _
  · exact indifferent_throw _
  · exact indifferent_pure _

theorem indifferent_bindPair (scope : Scope ν) (key : Option Json) (value : Json) (pair : ν × ν) :
    Indifferent (bindPair scope key value pair : Rendering L (Scope ν)) := by
  cases key with
  | none => exact indifferent_bindField scope value pair.2
  | some name =>
    exact (indifferent_bindField scope name pair.1).bind fun inner =>
      indifferent_bindField inner value pair.2

theorem indifferent_forEach {step : ν × ν → Rendering L String} (h : ∀ pair, Indifferent (step pair))
    (fuel : Nat) (cursor : L.Cursor) (output : String) : Indifferent (forEach step fuel cursor output) := by
  induction fuel generalizing cursor output with
  | zero => exact indifferent_throw _
  | succ fuel ih =>
    refine (indifferent_lift (L.next cursor)).bind fun result => ?_
    cases result with
    | none => exact indifferent_pure output
    | some found =>
      obtain ⟨pair, cursor⟩ := found
      exact (h pair).bind fun more => ih cursor (output ++ more)

mutual

theorem indifferent_run (scope : Scope ν) :
    ∀ i : Instruction Json, Indifferent (run scope i : Rendering L String)
  | .literal text => indifferent_fieldText text
  | .echo expr => (indifferent_evaluateField scope expr).bind fun v => indifferent_lift (L.echo v)
  | .choose arms otherwise => by
    refine (indifferent_runArms scope arms).bind fun result => ?_
    cases result with
    | none => exact indifferent_runOtherwise scope otherwise
    | some output => exact indifferent_pure output
  | .loop iterable key value body => by
    refine (indifferent_evaluateField scope iterable).bind fun v => ?_
    refine (indifferent_lift (L.start v)).bind fun cursor => ?_
    refine (indifferent_lift (L.pending cursor)).bind fun pending => ?_
    refine indifferent_forEach (fun pair => ?_) (pending + longestGrowth) cursor ""
    exact (indifferent_bindPair scope key value pair).bind fun inner => indifferent_runAll inner body
  | .stray _ => indifferent_throw _

theorem indifferent_runArms (scope : Scope ν) :
    ∀ arms : List (Arm Json), Indifferent (runArms scope arms : Rendering L (Option String))
  | [] => indifferent_pure _
  | .mk cond body :: rest => by
    refine (indifferent_evaluateField scope cond).bind fun v => ?_
    refine (indifferent_lift (L.truth v)).bind fun holds => ?_
    cases holds with
    | true => exact (indifferent_runAll scope body).bind fun output => indifferent_pure (some output)
    | false => exact indifferent_runArms scope rest

theorem indifferent_runOtherwise (scope : Scope ν) :
    ∀ otherwise : Option (List (Instruction Json)),
      Indifferent (runOtherwise scope otherwise : Rendering L String)
  | none => indifferent_pure _
  | some body => indifferent_runAll scope body

theorem indifferent_runAll (scope : Scope ν) :
    ∀ body : List (Instruction Json), Indifferent (runAll scope body : Rendering L String)
  | [] => indifferent_pure _
  | i :: rest =>
    (indifferent_run scope i).bind fun output =>
      (indifferent_runAll scope rest).bind fun more => indifferent_pure (output ++ more)

end

end Render

end Stencil
