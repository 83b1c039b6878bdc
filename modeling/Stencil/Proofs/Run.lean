import Stencil.Fault
/-!
# Computations step by step

How a computation that may fail is split at its first step, and what it does to the state on the way.
-/

namespace Stencil

variable {σ α β : Type}

theorem exists_of_bind_ok {x : Except Fault α} {f : α → Except Fault β} {b : β}
    (h : (do f (← x)) = .ok b) : ∃ a, x = .ok a ∧ f a = .ok b := by
  cases x with
  | ok a => exact ⟨a, rfl, h⟩
  | error fault => cases h

def left : EStateM.Result Fault σ α → σ
  | .ok _ s | .error _ s => s

@[simp] theorem get_run (s : σ) : (get : EStateM Fault σ σ) s = .ok s s := rfl

@[simp] theorem modify_run (f : σ → σ) (s : σ) : (modify f : EStateM Fault σ Unit) s = .ok () (f s) := rfl

@[simp] theorem pure_run (a : α) (s : σ) : (pure a : EStateM Fault σ α) s = .ok a s := rfl

@[simp] theorem throw_run (fault : Fault) (s : σ) : (throw fault : EStateM Fault σ α) s = .error fault s := rfl

@[simp] theorem bind_run (x : EStateM Fault σ α) (f : α → EStateM Fault σ β) (s : σ) :
    (x >>= f) s =
      match x s with
      | .ok a s' => f a s'
      | .error fault s' => .error fault s' := by
  show EStateM.bind x f s = _
  unfold EStateM.bind
  cases x s <;> rfl

theorem bind_ok {x : EStateM Fault σ α} {f : α → EStateM Fault σ β} {s s' : σ} {a : α}
    (h : x s = .ok a s') : (x >>= f) s = f a s' := by
  rw [bind_run, h]

theorem bind_error {x : EStateM Fault σ α} {f : α → EStateM Fault σ β} {s s' : σ} {fault : Fault}
    (h : x s = .error fault s') : (x >>= f) s = .error fault s' := by
  rw [bind_run, h]

theorem exists_of_run_ok {x : EStateM Fault σ α} {f : α → EStateM Fault σ β} {s t : σ} {b : β}
    (h : (x >>= f) s = .ok b t) : ∃ a s', x s = .ok a s' ∧ f a s' = .ok b t := by
  rw [bind_run] at h
  cases hx : x s with
  | ok a s' =>
    rw [hx] at h
    exact ⟨a, s', rfl, h⟩
  | error fault s' =>
    rw [hx] at h
    cases h

theorem cases_of_run_error {x : EStateM Fault σ α} {f : α → EStateM Fault σ β} {s t : σ} {fault : Fault}
    (h : (x >>= f) s = .error fault t) :
    x s = .error fault t ∨ ∃ a s', x s = .ok a s' ∧ f a s' = .error fault t := by
  rw [bind_run] at h
  cases hx : x s with
  | ok a s' =>
    rw [hx] at h
    exact .inr ⟨a, s', rfl, h⟩
  | error fault' s' =>
    rw [hx] at h
    obtain ⟨rfl, rfl⟩ := EStateM.Result.error.inj h
    exact .inl rfl

@[simp] theorem map_run (f : α → β) (x : EStateM Fault σ α) (s : σ) :
    (f <$> x) s =
      match x s with
      | .ok a s' => .ok (f a) s'
      | .error fault s' => .error fault s' := by
  show EStateM.map f x s = _
  unfold EStateM.map
  cases x s <;> rfl

@[simp] theorem tryCatch_run (x : EStateM Fault σ α) (handle : Fault → EStateM Fault σ α) (s : σ) :
    (tryCatch x handle) s =
      match x s with
      | .ok a s' => .ok a s'
      | .error fault s' => handle fault s' := by
  show EStateM.tryCatch x handle s = _
  delta EStateM.tryCatch
  dsimp only
  cases x s <;> rfl

def Leads (R : σ → σ → Prop) (x : EStateM Fault σ α) : Prop := ∀ s, R s (left (x s))

theorem Leads.bind {R : σ → σ → Prop} (htrans : ∀ {a b c : σ}, R a b → R b c → R a c)
    {x : EStateM Fault σ α} {f : α → EStateM Fault σ β} (hx : Leads R x) (hf : ∀ a, Leads R (f a)) :
    Leads R (x >>= f) := by
  intro s
  have hfirst := hx s
  rw [bind_run]
  cases hr : x s with
  | ok a s' =>
    rw [hr] at hfirst
    exact htrans hfirst (hf a s')
  | error fault s' =>
    rw [hr] at hfirst
    exact hfirst

def Yields (P : α → Prop) (x : EStateM Fault σ α) : Prop := ∀ s a t, x s = .ok a t → P a

variable {P : α → Prop} {Q : β → Prop}

theorem yields_pure {a : α} (h : P a) : Yields P (pure a : EStateM Fault σ α) := by
  intro s b t hrun
  cases hrun
  exact h

theorem yields_throw (fault : Fault) : Yields P (throw fault : EStateM Fault σ α) := nofun

theorem Yields.bind {x : EStateM Fault σ α} {f : α → EStateM Fault σ β} (hx : Yields P x)
    (hf : ∀ a, P a → Yields Q (f a)) : Yields Q (x >>= f) := by
  intro s b t hrun
  obtain ⟨a, u, hfirst, hrun⟩ := exists_of_run_ok hrun
  exact hf a (hx s a u hfirst) u b t hrun

theorem Yields.after {x : EStateM Fault σ α} {f : α → EStateM Fault σ β} (hf : ∀ a, Yields Q (f a)) :
    Yields Q (x >>= f) :=
  Yields.bind (P := fun _ => True) (fun _ _ _ _ => trivial) fun a _ => hf a

theorem Yields.mono {P' : α → Prop} {x : EStateM Fault σ α} (hx : Yields P x) (h : ∀ a, P a → P' a) :
    Yields P' x := fun s a t hrun => h a (hx s a t hrun)

def Reads (x : EStateM Fault σ α) : Prop := Leads (fun s t => t = s) x

theorem reads_pure (a : α) : Reads (pure a : EStateM Fault σ α) := fun _ => rfl

theorem reads_throw (fault : Fault) : Reads (throw fault : EStateM Fault σ α) := fun _ => rfl

theorem Reads.bind {x : EStateM Fault σ α} {f : α → EStateM Fault σ β} (hx : Reads x)
    (hf : ∀ a, Reads (f a)) : Reads (x >>= f) :=
  Leads.bind (fun h k => k.trans h) hx hf

theorem reads_mapM {f : α → EStateM Fault σ β} (hf : ∀ a, Reads (f a)) (l : List α) : Reads (l.mapM f) := by
  induction l with
  | nil =>
    rw [List.mapM_nil]
    exact reads_pure _
  | cons a l ih =>
    rw [List.mapM_cons]
    exact (hf a).bind fun b => ih.bind fun bs => reads_pure _

def resultAt (x : EStateM Fault σ α) (s : σ) : Except Fault α :=
  match x s with
  | .ok a _ => .ok a
  | .error fault _ => .error fault

theorem Reads.run {x : EStateM Fault σ α} (h : Reads x) (s : σ) :
    x s = (MonadExcept.ofExcept (resultAt x s) : EStateM Fault σ α) s := by
  have hleft := h s
  unfold resultAt
  cases hx : x s with
  | ok a t =>
    rw [hx] at hleft
    obtain rfl : t = s := hleft
    rfl
  | error fault t =>
    rw [hx] at hleft
    obtain rfl : t = s := hleft
    rfl

theorem Reads.resultAt_bind {x : EStateM Fault σ α} (h : Reads x) (f : α → EStateM Fault σ β) (s : σ) :
    resultAt (x >>= f) s = resultAt x s >>= fun a => resultAt (f a) s := by
  have hleft := h s
  rw [resultAt, bind_run, resultAt]
  cases hx : x s with
  | ok a t =>
    rw [hx] at hleft
    obtain rfl : t = s := hleft
    rfl
  | error fault t => rfl

theorem resultAt_mapM {f : α → EStateM Fault σ β} (hf : ∀ a, Reads (f a)) (l : List α) (s : σ) :
    resultAt (l.mapM f) s = l.mapM fun a => resultAt (f a) s := by
  induction l with
  | nil => rw [List.mapM_nil, List.mapM_nil]; rfl
  | cons a l ih =>
    rw [List.mapM_cons, List.mapM_cons, (hf a).resultAt_bind]
    refine bind_congr fun b => ?_
    rw [(reads_mapM hf l).resultAt_bind, ih]
    rfl

end Stencil
