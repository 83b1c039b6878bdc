import Stencil.Proofs.Run
import Stencil.Template.Tree
/-!
# Induction along the pieces

What holds before the first piece and is kept by every step holds of all that is read of a template. For
what is said of each body and of the head of each open block, the steps come down to a few cases.
-/

namespace Stencil.Template

variable {P : List Piece → State → Prop}

theorem run_induction (hstep : ∀ ps p s s', P ps s → s.step p = .ok s' → P (ps ++ [p]) s')
    {before ps : List Piece} {s s' : State} (hs : P before s) (h : ps.foldlM State.step s = .ok s') :
    P (before ++ ps) s' := by
  induction ps generalizing before s with
  | nil =>
    obtain rfl := Except.ok.inj h
    rw [List.append_nil]
    exact hs
  | cons p ps ih =>
    rw [List.foldlM_cons] at h
    obtain ⟨next, hnext, hrest⟩ := exists_of_bind_ok h
    have := ih (hstep before p s next hs hnext) hrest
    rwa [List.append_assoc] at this

theorem tree_induction (hstart : P [] ⟨[], []⟩)
    (hstep : ∀ ps p s s', P ps s → s.step p = .ok s' → P (ps ++ [p]) s') {ps : List Piece} {body : Body}
    (h : tree ps = .ok body) : P ps ⟨body.reverse, []⟩ := by
  obtain ⟨⟨rest, blocks⟩, hrun, hfinish⟩ := exists_of_bind_ok h
  have hall := run_induction hstep hstart hrun
  cases blocks with
  | nil =>
    obtain rfl := Except.ok.inj hfinish
    rw [List.reverse_reverse]
    exact hall
  | cons block blocks => cases hfinish

variable {s s' : State}

theorem State.turn_ok {tag : ArmTag} {line : Nat} {next : List (Arm String) → Head}
    (h : s.turn tag line next = .ok s') :
    ∃ before cond opened around blocks, s.blocks = ⟨.arm before cond, opened, around⟩ :: blocks ∧
      s' = ⟨[], ⟨next (before ++ [.mk cond s.body.reverse]), opened, around⟩ :: blocks⟩ := by
  unfold State.turn at h
  split at h
  · next before cond opened around blocks hb =>
    exact ⟨before, cond, opened, around, blocks, hb, (Except.ok.inj h).symm⟩
  · cases h
  · cases h

theorem State.close_ok {kind : BlockKind} {line : Nat} (h : s.close kind line = .ok s') :
    ∃ head opened around blocks, s.blocks = ⟨head, opened, around⟩ :: blocks ∧ head.kind = kind ∧
      s' = ⟨head.close s.body.reverse :: around, blocks⟩ := by
  unfold State.close at h
  split at h
  · cases h
  · next head opened around blocks hb =>
    split at h
    · next hk => exact ⟨head, opened, around, blocks, hb, hk, (Except.ok.inj h).symm⟩
    · cases h

/-- A property of heads and one of bodies, latest instruction first, that pieces with a property keep. -/
structure Kept (P : Piece → Prop) (H : Head → Prop) (B : Body → Prop) : Prop where
  empty : B []
  text {t : List Char} {body : Body} : P (.text t) → B body → B (addText (String.ofList t) body)
  echo {expr : String} {line : Nat} {body : Body} : P (.mark (.echo expr) line) → B body → B (.echo expr :: body)
  choice {cond : String} {line : Nat} : P (.mark (.choice cond) line) → H (.arm [] cond)
  loop {iterable value : String} {key : Option String} {line : Nat} :
    P (.mark (.loop iterable key value) line) → H (.loop iterable key value)
  further {before : List (Arm String)} {cond cond' : String} {line : Nat} {body : Body} :
    P (.mark (.further cond') line) → H (.arm before cond) → B body →
      H (.arm (before ++ [.mk cond body.reverse]) cond')
  otherwise {before : List (Arm String)} {cond : String} {body : Body} : H (.arm before cond) → B body →
    H (.last (before ++ [.mk cond body.reverse]))
  close {head : Head} {body around : Body} : H head → B body → B around → B (head.close body.reverse :: around)

/-- The property of heads holds of all open blocks, and that of bodies of all bodies that are read. -/
structure State.All (H : Head → Prop) (B : Body → Prop) (s : State) : Prop where
  body : B s.body
  blocks : ∀ block ∈ s.blocks, H block.head ∧ B block.around

variable {P : Piece → Prop} {H : Head → Prop} {B : Body → Prop}

theorem Kept.enter (k : Kept P H B) (hs : s.All H B) {head : Head} (hh : H head) (line : Nat) :
    (s.enter head line).All H B :=
  ⟨k.empty, List.forall_mem_cons.2 ⟨⟨hh, hs.body⟩, hs.blocks⟩⟩

theorem Kept.turn (k : Kept P H B) (hs : s.All H B) {tag : ArmTag} {line : Nat} {next : List (Arm String) → Head}
    (hnext : ∀ before cond, H (.arm before cond) → H (next (before ++ [.mk cond s.body.reverse])))
    (h : s.turn tag line next = .ok s') : s'.All H B := by
  obtain ⟨before, cond, opened, around, blocks, hb, rfl⟩ := State.turn_ok h
  obtain ⟨⟨hh, ha⟩, hrest⟩ := List.forall_mem_cons.1 (hb ▸ hs.blocks)
  exact ⟨k.empty, List.forall_mem_cons.2 ⟨⟨hnext before cond hh, ha⟩, hrest⟩⟩

theorem Kept.closed (k : Kept P H B) (hs : s.All H B) {kind : BlockKind} {line : Nat}
    (h : s.close kind line = .ok s') : s'.All H B := by
  obtain ⟨head, opened, around, blocks, hb, -, rfl⟩ := State.close_ok h
  obtain ⟨⟨hh, ha⟩, hrest⟩ := List.forall_mem_cons.1 (hb ▸ hs.blocks)
  exact ⟨k.close hh hs.body ha, hrest⟩

theorem Kept.step (k : Kept P H B) {p : Piece} (hp : P p) (hs : s.All H B) (h : s.step p = .ok s') :
    s'.All H B := by
  cases p with
  | text t =>
    obtain rfl := Except.ok.inj h
    exact ⟨k.text hp hs.body, hs.blocks⟩
  | bad cause line => cases h
  | mark m line =>
    cases m with
    | comment =>
      obtain rfl := Except.ok.inj h
      exact hs
    | echo expr =>
      obtain rfl := Except.ok.inj h
      exact ⟨k.echo hp hs.body, hs.blocks⟩
    | choice cond =>
      obtain rfl := Except.ok.inj h
      exact k.enter hs (k.choice hp) line
    | loop iterable key value =>
      obtain rfl := Except.ok.inj h
      exact k.enter hs (k.loop hp) line
    | further cond =>
      change s.turn .further line (fun before => .arm before cond) = .ok s' at h
      exact k.turn hs (fun _ _ hh => k.further hp hh hs.body) h
    | otherwise => exact k.turn hs (fun _ _ hh => k.otherwise hh hs.body) h
    | endChoice | endLoop => exact k.closed hs h

theorem Kept.tree (k : Kept P H B) {ps : List Piece} {body : Body} (hps : ∀ p ∈ ps, P p)
    (h : tree ps = .ok body) : B body.reverse := by
  have hrun := tree_induction (P := fun read s => (∀ p ∈ read, P p) → s.All H B)
    (fun _ => ⟨k.empty, nofun⟩)
    (fun read p s s' hs hstep hall => by
      obtain ⟨hread, hp⟩ := List.forall_mem_append.1 hall
      exact k.step (hp p (List.mem_singleton.2 rfl)) (hs hread) hstep) h
  exact (hrun hps).body

end Stencil.Template
