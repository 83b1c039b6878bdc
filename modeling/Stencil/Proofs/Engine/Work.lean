import Stencil.Engine
import Stencil.Proofs.Artifacts.Ensure
import Stencil.Proofs.Render.Indifferent
/-!
# The work of an engine

What compiling, baking and rendering do to the files and to the session, step by step.
-/

namespace Stencil

namespace Work

variable {σ ν α β : Type} {L : Language σ ν}

/-- What work gives, and the store that it leaves. -/
def outcome : EStateM.Result Fault (World L) α → Except Fault α × σ
  | .ok a w => (.ok a, w.session.store)
  | .error fault w => (.error fault, w.session.store)

theorem outcome_inSession (x : Rendering L α) (w : World L) :
    outcome (inSession x w) = Session.outcome (x w.session) := by
  unfold inSession
  cases x w.session <;> rfl

def Keeps (x : Work L α) : Prop := Leads (fun w w' => w.files.KeepsFolders w'.files) x

theorem Keeps.bind {x : Work L α} {f : α → Work L β} (hx : Keeps x) (hf : ∀ a, Keeps (f a)) :
    Keeps (x >>= f) :=
  Leads.bind (R := fun w w' : World L => w.files.KeepsFolders w'.files) (fun h k => h.trans k) hx hf

theorem keeps_pure (a : α) : Keeps (pure a : Work L α) := fun w => Files.KeepsFolders.refl w.files

theorem keeps_get : Keeps (get : Work L (World L)) := fun w => Files.KeepsFolders.refl w.files

theorem keeps_ofExcept (x : Except Fault α) : Keeps (MonadExcept.ofExcept x : Work L α) := by
  intro w
  cases x <;> exact Files.KeepsFolders.refl w.files

theorem keeps_onFiles {x : Disk α} (h : x.Keeps) : Keeps (onFiles x : Work L α) := by
  intro w
  have hx := h w.files
  unfold onFiles
  cases hr : x w.files <;> rw [hr] at hx <;> exact hx

theorem keeps_inSession (x : Rendering L α) : Keeps (inSession x) := by
  intro w
  unfold inSession
  cases x w.session <;> exact Files.KeepsFolders.refl w.files

end Work

namespace Engine

open Template

variable {σ ν : Type} {L : Language σ ν} {e : Engine} {files : Files} {name : String}

theorem artifact_cases (e : Engine) (files : Files) (name : String) :
    (∃ fault, e.source files name = .error fault ∧ e.artifact files name = .error fault) ∨
    (∃ text fault, e.source files name = .ok text ∧ parseText (e.resolver files) text = .error fault ∧
      e.artifact files name = .error fault) ∨
    (∃ text body identity, e.source files name = .ok text ∧
      parseText (e.resolver files) text = .ok body ∧
      e.artifact files name = Prod.mk identity <$> dumpWithin callRoom (fields body)) := by
  unfold source artifact
  cases e.templates.locate name with
  | error fault => exact .inl ⟨fault, rfl, rfl⟩
  | ok place =>
    simp only [bind, Except.bind]
    cases files.readText place with
    | error fault => exact .inl ⟨fault, rfl, rfl⟩
    | ok text =>
      simp only [Template.compile, bind, Except.bind]
      cases hp : parseText (e.resolver files) text with
      | error fault => exact .inr (.inl ⟨text, fault, rfl, hp, rfl⟩)
      | ok body =>
        refine .inr (.inr ⟨text, body, (Path.ofPlace place).text, rfl, hp, ?_⟩)
        dsimp only
        cases dumpWithin callRoom (fields body) <;> rfl

theorem compile_run (e : Engine) (name : String) (trouble : WriteStep → Option Fault) (files : Files) :
    e.compile name trouble files =
      match e.artifact files name with
      | .error fault => .error fault files
      | .ok (identity, compiled) =>
        match e.artifacts.ensure trouble identity compiled files with
        | .ok written files' => .ok (e.artifacts.path identity, written) files'
        | .error fault files' => .error fault files' := by
  unfold compile
  cases hmade : e.artifact files name with
  | error fault => simp [hmade]
  | ok made =>
    obtain ⟨identity, compiled⟩ := made
    cases hensure : e.artifacts.ensure trouble identity compiled files <;> simp [hmade, hensure]

theorem keeps_compile (e : Engine) (name : String) (trouble : WriteStep → Option Fault) :
    Disk.Keeps (e.compile name trouble) :=
  (Disk.keeps_ask _).bind fun made =>
    (Artifacts.keeps_ensure _ _ made.1 made.2).bind fun _ => Disk.keeps_pure _

theorem keeps_bake (e : Engine) (name : String) (values : Scope ν) (named : List (String × ν))
    (trouble : WriteStep → Option Fault) :
    Work.Keeps (e.bake name values named trouble : Work L (String × Bool)) :=
  (Work.keeps_onFiles (keeps_compile e name trouble)).bind fun _ =>
    Work.keeps_get.bind fun _ => (Work.keeps_inSession _).bind fun _ => Work.keeps_pure _

theorem keeps_renderText (e : Engine) (text : String) (values : Scope ν) (named : List (String × ν)) :
    Work.Keeps (e.renderText text values named : Work L String) :=
  Work.keeps_get.bind fun _ => (Work.keeps_ofExcept _).bind fun _ => Work.keeps_inSession _

theorem make_ok {directory : Path} {extension : String} {folder : Option Path} {files files' : Files}
    (h : make directory extension folder files = .ok e files') :
    ∃ place, files'.enter [] e.artifacts.folder.parts = .ok place := by
  unfold make at h
  rw [bind_run] at h
  generalize folder.getD (directory.join (Path.ofText standardFolder)) = chosen at h
  cases hr : Disk.ensureFolders chosen.parts files with
  | error fault fs =>
    rw [hr] at h
    cases h
  | ok u fs =>
    rw [hr] at h
    cases h
    exact Disk.ensureFolders_ok hr

theorem keeps_make (directory : Path) (extension : String) (folder : Option Path) :
    Disk.Keeps (make directory extension folder) :=
  (Disk.keeps_ensureFolders _).bind fun _ => Disk.keeps_pure _

theorem execute_of_load {path : List String} {text : String} {body : List (Instruction Json)}
    (hr : files.readText path = .ok text) (hl : load text = .ok body) (scope : Scope ν) :
    (execute files path scope : Rendering L String) = Render.runAll scope body := by
  unfold execute
  rw [hr]
  show (MonadExcept.ofExcept (load text) >>= fun body => Render.runAll scope body : Rendering L String) = _
  rw [hl]
  rfl

theorem bake_run (e : Engine) (name : String) (values : Scope ν) (named : List (String × ν))
    (trouble : WriteStep → Option Fault) (w : World L) :
    e.bake name values named trouble w =
      match e.compile name trouble w.files with
      | .error fault files => .error fault { w with files }
      | .ok (path, written) files =>
        match execute files path (values.bindAll named) w.session with
        | .ok output session => .ok (output, written) ⟨files, session⟩
        | .error fault session => .error fault ⟨files, session⟩ := by
  unfold bake
  cases hcompile : e.compile name trouble w.files with
  | error fault files => simp [Work.onFiles, hcompile]
  | ok result files =>
    obtain ⟨path, written⟩ := result
    cases hexecute : execute files path (values.bindAll named) w.session <;>
      simp [Work.onFiles, Work.inSession, hcompile, hexecute]

theorem renderText_run (e : Engine) (text : String) (values : Scope ν) (named : List (String × ν))
    (w : World L) :
    e.renderText text values named w =
      match parseText (e.resolver w.files) text with
      | .error fault => .error fault w
      | .ok body => Work.inSession (Render.runAll (values.bindAll named) (fields body)) w := by
  show (MonadExcept.ofExcept (parseText (e.resolver w.files) text) >>= fun body =>
    Work.inSession (Render.runAll (values.bindAll named) (fields body)) : Work L String) w = _
  cases parseText (e.resolver w.files) text <;> rfl

theorem files_renderText (e : Engine) (text : String) (values : Scope ν) (named : List (String × ν))
    (w : World L) : (left (e.renderText text values named w)).files = w.files := by
  rw [renderText_run]
  cases parseText (e.resolver w.files) text with
  | error fault => rfl
  | ok body =>
    dsimp only
    unfold Work.inSession
    cases Render.runAll (values.bindAll named) (fields body) w.session <;> rfl

end Engine

end Stencil
