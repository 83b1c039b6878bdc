import Stencil.Expression.Language
import Stencil.Proofs.Engine.Work
/-!
# Histories of a site

A site is an engine with the files and the session that it works on. Anything may happen to the files of a
site and to its engine, in any order, and the folder of the artifacts stays where it is.
-/

namespace Stencil

variable {σ ν : Type}

/-- What a rendering is given: values, further variables, and the store that these refer to. -/
structure Bindings (σ ν : Type) where
  store : σ
  values : Scope ν
  named : List (String × ν)

/-- An engine at work. -/
structure Site (L : Language σ ν) where
  engine : Engine
  world : World L

/-- What may happen to a site. Templates and artifacts alike are written, changed and removed as files, and
the steps that write an artifact may fail. -/
inductive Event (σ ν : Type) where
  | write (parts : List String) (content : ByteArray)
  | remove (parts : List String)
  | makeFolder (parts : List String)
  | recreate (directory : Path) (extension : String) (folder : Option Path)
  | compile (name : String) (trouble : WriteStep → Option Fault)
  | bake (name : String) (bindings : Bindings σ ν) (trouble : WriteStep → Option Fault)
  | renderText (text : String) (bindings : Bindings σ ν)

namespace Site

variable {L : Language σ ν}

def given (s : Site L) (b : Bindings σ ν) : World L :=
  { s.world with session := { s.world.session with store := b.store } }

def work {α : Type} (s : Site L) (x : Work L α) (w : World L) : Site L :=
  { s with world := left (x w) }

/-- A site with a new engine in the place of the old one, which stays if the new one cannot be made. -/
def recreate (s : Site L) (directory : Path) (extension : String) (folder : Option Path) : Site L :=
  match Engine.make directory extension folder s.world.files with
  | .ok engine files => ⟨engine, ⟨files, Session.fresh L s.world.session.store⟩⟩
  | .error _ files => { s with world := { s.world with files } }

/-- A site after one more event. Work that fails leaves what it has done until then. -/
def after (s : Site L) : Event σ ν → Site L
  | .write parts content => s.work (Work.onFiles (Disk.write parts content)) s.world
  | .remove parts => s.work (Work.onFiles (Disk.remove parts)) s.world
  | .makeFolder parts => s.work (Work.onFiles (Disk.makeFolder parts)) s.world
  | .recreate directory extension folder => s.recreate directory extension folder
  | .compile name trouble => s.work (Work.onFiles (s.engine.compile name trouble)) s.world
  | .bake name b trouble => s.work (s.engine.bake name b.values b.named trouble) (s.given b)
  | .renderText text b => s.work (s.engine.renderText text b.values b.named) (s.given b)

/-- The sites that there can be: those of a new engine, and what events make of them. -/
inductive Reachable : Site L → Prop where
  | start {directory : Path} {extension : String} {folder : Option Path} {files files' : Files}
      {engine : Engine} (store : σ) :
      Engine.make directory extension folder files = .ok engine files' →
      Reachable ⟨engine, ⟨files', Session.fresh L store⟩⟩
  | step {s : Site L} (event : Event σ ν) : Reachable s → Reachable (s.after event)

/-- The folder of the artifacts can be entered. -/
def Rooted (s : Site L) : Prop :=
  ∃ place, s.world.files.enter [] s.engine.artifacts.folder.parts = .ok place

theorem Rooted.work {α : Type} {s : Site L} (h : s.Rooted) {x : Work L α} (hx : x.Keeps) {w : World L}
    (hw : w.files = s.world.files) : (s.work x w).Rooted := by
  obtain ⟨place, henter⟩ := h
  have hkeep : w.files.KeepsFolders (left (x w)).files := hx w
  rw [hw] at hkeep
  exact ⟨place, hkeep.enter henter⟩

theorem Rooted.recreate {s : Site L} (h : s.Rooted) (directory : Path) (extension : String)
    (folder : Option Path) : (s.recreate directory extension folder).Rooted := by
  have hkeep := Engine.keeps_make directory extension folder s.world.files
  unfold Site.recreate
  split
  · next engine files hm => exact Engine.make_ok hm
  · next fault files hm =>
    obtain ⟨place, henter⟩ := h
    rw [hm] at hkeep
    exact ⟨place, hkeep.enter henter⟩

theorem Rooted.after {s : Site L} (h : s.Rooted) (event : Event σ ν) : (s.after event).Rooted := by
  cases event with
  | write parts content => exact h.work (Work.keeps_onFiles (Disk.keeps_write parts content)) rfl
  | remove parts => exact h.work (Work.keeps_onFiles (Disk.keeps_remove parts)) rfl
  | makeFolder parts => exact h.work (Work.keeps_onFiles (Disk.keeps_makeFolder parts)) rfl
  | recreate directory extension folder => exact h.recreate directory extension folder
  | compile name trouble => exact h.work (Work.keeps_onFiles (Engine.keeps_compile s.engine name trouble)) rfl
  | bake name b trouble => exact h.work (Engine.keeps_bake s.engine name b.values b.named trouble) rfl
  | renderText text b => exact h.work (Engine.keeps_renderText s.engine text b.values b.named) rfl

theorem Reachable.rooted {s : Site L} (h : s.Reachable) : s.Rooted := by
  induction h with
  | start store hm => exact Engine.make_ok hm
  | step event _ ih => exact ih.after event

def sampleFiles : Files := (Files.empty.put ["cached"] .folder).put ["a.tmpl"] (.file "x@if(n)y@endif".toUTF8)

def sampleEngine : Engine := ⟨TemplateRoot.make ⟨.one, []⟩ ".tmpl", ⟨⟨.one, ["cached"]⟩⟩⟩

def sample : Site Expression.language := ⟨sampleEngine, ⟨sampleFiles, Session.fresh _ Store.empty⟩⟩

theorem enter_sampleFiles : sampleFiles.enter [] ["cached"] = .ok ["cached"] := by
  rw [Files.enter, Files.next_plain (by decide) (by decide) (by decide)]
  rfl

theorem node?_sampleFiles (file : String) (rest : List String) :
    sampleFiles.node? ("cached" :: file :: rest) = none := by
  simp [sampleFiles, Files.node?, Files.put, Files.empty, Files.without, List.lookup_cons]

theorem reachable_sample : sample.Reachable := by
  have hmake : Engine.make ⟨.one, []⟩ ".tmpl" (some ⟨.one, ["cached"]⟩) sampleFiles = .ok sampleEngine sampleFiles := by
    show (Disk.ensureFolders ["cached"] >>= fun _ => pure sampleEngine : Disk Engine) sampleFiles = _
    rw [bind_run, Disk.ensureFolders_of_enter enter_sampleFiles]
    rfl
  exact .start Store.empty hmake

theorem locate_sampleEngine : sampleEngine.templates.locate "a" = .ok ["a.tmpl"] := by
  have hsegments : TemplateRoot.segments "a" = ["a"] := by decide +kernel
  have hmake : sampleEngine.templates = ⟨⟨.one, []⟩, ".tmpl"⟩ := by decide +kernel
  have hspelled : (⟨⟨.one, []⟩, ".tmpl"⟩ : TemplateRoot).spelled ["a"] = ⟨.one, ["a"]⟩ := by decide +kernel
  have hextend : TemplateRoot.extend ⟨.one, ["a"]⟩ ".tmpl" = .ok ⟨.one, ["a.tmpl"]⟩ := by
    have hcomponent : TemplateRoot.isComponent "a.tmpl" = true := by decide +kernel
    have hparts : Path.partsOf "a.tmpl".toList = ["a.tmpl"] := by decide +kernel
    simp only [TemplateRoot.extend, Path.name?, List.getLast?_singleton]
    rw [show "a" ++ ".tmpl" = "a.tmpl" from rfl, hcomponent, hparts]
    rfl
  have hplace : TemplateRoot.placeOf ⟨.one, ["a.tmpl"]⟩ = .ok ["a.tmpl"] := by
    simp [TemplateRoot.placeOf, Path.place, Path.step]
  rw [hmake, TemplateRoot.locate, hsegments, hspelled, hextend]
  exact hplace

theorem source_sampleEngine {files : Files}
    (h : files.node? ["a.tmpl"] = some (.file "x@if(n)y@endif".toUTF8)) :
    sampleEngine.source files "a" = .ok "x@if(n)y@endif" := by
  have hread : files.read ["a.tmpl"] = .ok "x@if(n)y@endif".toUTF8 := by
    show (Files.next [] "a.tmpl" >>= _) = _
    rw [Files.next_plain (by decide) (by decide) (by decide)]
    simp only [bind, Except.bind, List.nil_append, h]
  unfold Engine.source
  rw [locate_sampleEngine]
  exact Artifacts.readText_of_read hread (by simp [Json.Printable])

end Site

end Stencil
