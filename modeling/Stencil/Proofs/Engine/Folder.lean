import Stencil.Proofs.Artifacts.Calls
import Stencil.Proofs.Engine.History
import Stencil.Proofs.Files.Places
import Stencil.Proofs.Template.Needed
/-!
# The folder of the artifacts

What stands in the folder of the artifacts after any history of an engine: artifacts of templates that
were compiled, and files that something else wrote there. Compiling changes one file at most, and
nothing when it fails.
-/

namespace Stencil

open Template Artifacts

variable {σ ν : Type} {L : Language σ ν}

namespace Engine

variable {e : Engine} {files files' : Files} {root : List String} {name : String}

def Outside (e : Engine) (files : Files) (root : List String) (name : String) : Prop :=
  ∀ n, Needed (e.source files) name n → ∀ place, e.templates.locate n = .ok place → ¬root <+: place

/-- A template that stands outside the folder of the artifacts, and whose artifact belongs to no other
text. -/
structure Fair (e : Engine) (files : Files) (root : List String) (name : String) : Prop where
  outside : e.Outside files root name
  told : ∀ identity compiled, e.artifact files name = .ok (identity, compiled) →
    Told files (e.artifacts.path identity) compiled

def artifactPlace (root source : List String) : List String :=
  root ++ [fileName (Digest.ofText (Path.ofPlace source).text)]

/-- What compiling the template of a name does to the files. When it fails, they stay as they were.
Otherwise the artifact holds what the template compiles to, nothing else changes, and nothing at all if
the artifact held that text before. -/
def Updates (e : Engine) (root : List String) (name : String) (trouble : WriteStep → Option Fault)
    (files files' : Files) : Prop :=
  match e.compile name trouble files with
  | .error _ _ => Same files files'
  | .ok (path, _) _ => ∃ source text, e.templates.locate name = .ok source ∧
      e.artifact files' name = .ok ((Path.ofPlace source).text, text) ∧
      path = e.artifacts.path (Path.ofPlace source).text ∧
      files'.find path = .ok (artifactPlace root source) ∧ files'.read path = .ok text.toUTF8 ∧
      (∀ p, p ≠ artifactPlace root source → files'.node? p = files.node? p) ∧
      (files.read path = .ok text.toUTF8 → files' = files)

theorem source_written {target : List String} {content : ByteArray} {n : String}
    (hw : Written files target content files') (hroot : root <+: target)
    (hout : ∀ place, e.templates.locate n = .ok place → ¬root <+: place) :
    e.source files' n = e.source files n := by
  unfold source
  cases hl : e.templates.locate n with
  | error fault => rfl
  | ok place =>
    refine Files.readText_prefixes (TemplateRoot.dots_not_mem_locate hl) fun q hq => ?_
    have hne : q ≠ target := by
      rintro rfl
      exact hout place hl (hroot.trans hq)
    rw [hw q, if_neg hne]

theorem artifact_ok {identity compiled : String} (h : e.artifact files name = .ok (identity, compiled)) :
    ∃ place text, e.templates.locate name = .ok place ∧ identity = (Path.ofPlace place).text ∧
      e.source files name = .ok text ∧ Template.compile (e.resolver files) text = .ok compiled := by
  obtain ⟨place, hl, h⟩ := exists_of_bind_ok h
  obtain ⟨text, ht, h⟩ := exists_of_bind_ok h
  obtain ⟨body, hc, h⟩ := exists_of_bind_ok h
  obtain ⟨rfl, rfl⟩ := Prod.mk.inj (Except.ok.inj h)
  refine ⟨place, text, hl, rfl, ?_, hc⟩
  unfold source
  rw [hl]
  exact ht

theorem artifact_of_source {place : List String} {text compiled : String}
    (hl : e.templates.locate name = .ok place) (ht : e.source files name = .ok text)
    (hc : Template.compile (e.resolver files) text = .ok compiled) :
    e.artifact files name = .ok ((Path.ofPlace place).text, compiled) := by
  unfold source at ht
  unfold artifact
  rw [hl] at ht ⊢
  simp only [bind, Except.bind] at ht ⊢
  simp only [ht, hc]

theorem artifact_written {target : List String} {content : ByteArray} {identity compiled : String}
    (hw : Written files target content files') (hroot : root <+: target) (hout : e.Outside files root name)
    (h : e.artifact files name = .ok (identity, compiled)) :
    e.artifact files' name = .ok (identity, compiled) := by
  obtain ⟨place, text, hl, rfl, ht, hc⟩ := artifact_ok h
  have hagree : ∀ n, Needed (e.source files) name n → e.source files n = e.source files' n := fun n hn =>
    (source_written hw hroot (hout n hn)).symm
  have hparse : parseText (e.resolver files) text = parseText (e.resolver files') text :=
    parseText_congr ht hagree
  refine artifact_of_source hl ((hagree name .itself).symm.trans ht) ?_
  rw [← hc, Template.compile, Template.compile, hparse]

theorem updates_compile (he : files.enter [] e.artifacts.folder.parts = .ok root)
    (hf : e.Fair files root name) (trouble : WriteStep → Option Fault) :
    e.Updates root name trouble files (left (e.compile name trouble files)) := by
  unfold Updates
  rw [compile_run]
  cases ha : e.artifact files name with
  | error fault => exact fun _ => rfl
  | ok made =>
    obtain ⟨identity, compiled⟩ := made
    obtain ⟨place, text, hl, rfl, -, -⟩ := artifact_ok ha
    have hcurrent := isCurrent_iff_read (hf.told _ _ ha)
    dsimp only
    rcases ensure_cases trouble he with ⟨hrun, hc⟩ | ⟨fs, hrun, hc, hfolder, hw⟩ | ⟨fault, fs, hrun, hsame, -⟩
    · rw [hrun]
      exact ⟨place, compiled, hl, ha, rfl, find_path he _, hcurrent.1 hc, fun _ _ => rfl, fun _ => rfl⟩
    · rw [hrun]
      have henter := (KeepsFolders.of_written hw hfolder).enter he
      have hother : ∀ p, p ≠ artifactPlace root place → fs.node? p = files.node? p := fun p hp =>
        (hw p).trans (if_neg hp)
      refine ⟨place, compiled, hl, artifact_written hw (List.prefix_append _ _) hf.outside ha, rfl,
        find_path henter _, read_written he hfolder hw, hother, fun hread => ?_⟩
      rw [hcurrent.2 hread] at hc
      cases hc
    · rw [hrun]
      exact hsame

theorem files_bake (e : Engine) (name : String) (values : Scope ν) (named : List (String × ν))
    (trouble : WriteStep → Option Fault) (w : World L) :
    (left (e.bake name values named trouble w)).files = left (e.compile name trouble w.files) := by
  rw [bake_run]
  cases e.compile name trouble w.files with
  | error fault files => rfl
  | ok made files =>
    obtain ⟨path, written⟩ := made
    dsimp only
    cases (execute files path (values.bindAll named) : Rendering L String) w.session <;> rfl

end Engine

namespace Site

/-- A step of the life of a site: an event, or a question about a template. -/
inductive Step (σ ν : Type) where
  | event (event : Event σ ν)
  | resolve (name : String)
  | read (name : String)

def step (s : Site L) : Step σ ν → Site L
  | .event event => s.after event
  | .resolve name => s.work (Work.onFiles (Disk.ask fun _ => s.engine.templates.locate name)) s.world
  | .read name => s.work (Work.onFiles (Disk.ask (s.engine.source · name))) s.world

def run (s : Site L) (steps : List (Step σ ν)) : Site L := steps.foldl step s

/-- Steps that leave the folder of the artifacts where it is and compile fair templates only. -/
def Admits (root : List String) (s : Site L) : Step σ ν → Prop
  | .event (.recreate directory _ folder) =>
    folder.getD (directory.join (Path.ofText Engine.standardFolder)) = s.engine.artifacts.folder
  | .event (.compile name _) | .event (.bake name _ _) => s.engine.Fair s.world.files root name
  | _ => True

/-- A step after which a file may stand at a place: the compilation of a template, alone or in a bake, or
a file that is written there. -/
inductive Made (root : List String) (s : Site L) : Step σ ν → List String → Prop where
  | compile {name : String} {trouble : WriteStep → Option Fault} {source path : List String}
      {written : Bool} {files : Files} :
      s.engine.templates.locate name = .ok source →
      s.engine.compile name trouble s.world.files = .ok (path, written) files →
      Made root s (.event (.compile name trouble)) (Engine.artifactPlace root source)
  | bake {name : String} {b : Bindings σ ν} {trouble : WriteStep → Option Fault}
      {source path : List String} {written : Bool} {files : Files} :
      s.engine.templates.locate name = .ok source →
      s.engine.compile name trouble s.world.files = .ok (path, written) files →
      Made root s (.event (.bake name b trouble)) (Engine.artifactPlace root source)
  | write {parts place : List String} {content : ByteArray} : s.world.files.find parts = .ok place →
      s.world.files.isFolder place = false → Made root s (.event (.write parts content)) place

/-- What a step of an engine does to the files. A bake brings the artifact up to date as a compilation
does, whatever becomes of the rendering, and fails as a compilation fails. -/
def Effect (root : List String) (s t : Site L) : Step σ ν → Prop
  | .event (.compile name trouble) => s.engine.Updates root name trouble s.world.files t.world.files
  | .event (.bake name b trouble) =>
      s.engine.Updates root name trouble s.world.files t.world.files ∧
      ∀ fault files, s.engine.compile name trouble s.world.files = .error fault files →
        ∃ w, s.engine.bake name b.values b.named trouble (s.given b) = .error fault w
  | .event (.renderText _ _) | .resolve _ | .read _ => t.world.files = s.world.files
  | _ => True

/-- The folder of the artifacts is the one at a place. -/
def Stands (root : List String) (s : Site L) : Prop :=
  s.world.files.enter [] s.engine.artifacts.folder.parts = .ok root

variable {root p : List String} {s : Site L}

theorem files_ask {α : Type} (question : Files → Except Fault α) (w : World L) :
    (left (Work.onFiles (Disk.ask question) w)).files = w.files := by
  unfold Work.onFiles
  rw [Disk.ask_run]
  cases question w.files <;> rfl

theorem files_onFiles {α : Type} (x : Disk α) (w : World L) :
    (left (Work.onFiles x w)).files = left (x w.files) := by
  unfold Work.onFiles
  cases x w.files <;> rfl

theorem recreate_same (h : Stands root s) {directory : Path} {extension : String} {folder : Option Path}
    (hfolder : folder.getD (directory.join (Path.ofText Engine.standardFolder)) =
      s.engine.artifacts.folder) :
    (s.recreate directory extension folder).world.files = s.world.files ∧
      (s.recreate directory extension folder).engine.artifacts = s.engine.artifacts := by
  have hmake : Engine.make directory extension folder s.world.files =
      .ok ⟨TemplateRoot.make directory extension, s.engine.artifacts⟩ s.world.files := by
    unfold Engine.make
    rw [hfolder, bind_run, Disk.ensureFolders_of_enter h]
    rfl
  unfold Site.recreate
  rw [hmake]
  exact ⟨rfl, rfl⟩

theorem Stands.step (h : Stands root s) {step : Step σ ν} (ha : Admits root s step) :
    Stands root (s.step step) := by
  have hwork {α : Type} {x : Work L α} (hx : x.Keeps) {w : World L} (hw : w.files = s.world.files) :
      Stands root (s.work x w) := by
    have hkeep : w.files.KeepsFolders (left (x w)).files := hx w
    rw [hw] at hkeep
    exact hkeep.enter h
  cases step with
  | event event =>
    cases event with
    | write parts content => exact hwork (Work.keeps_onFiles (Disk.keeps_write parts content)) rfl
    | remove parts => exact hwork (Work.keeps_onFiles (Disk.keeps_remove parts)) rfl
    | makeFolder parts => exact hwork (Work.keeps_onFiles (Disk.keeps_makeFolder parts)) rfl
    | recreate directory extension folder =>
      show (s.recreate directory extension folder).world.files.enter []
        (s.recreate directory extension folder).engine.artifacts.folder.parts = _
      rw [(recreate_same h ha).1, (recreate_same h ha).2]
      exact h
    | compile name trouble =>
      exact hwork (Work.keeps_onFiles (Engine.keeps_compile s.engine name trouble)) rfl
    | bake name b trouble => exact hwork (Engine.keeps_bake s.engine name b.values b.named trouble) rfl
    | renderText text b => exact hwork (Engine.keeps_renderText s.engine text b.values b.named) rfl
  | resolve name => exact hwork (Work.keeps_onFiles (Disk.keeps_ask _)) rfl
  | read name => exact hwork (Work.keeps_onFiles (Disk.keeps_ask _)) rfl

theorem effect_step (h : Stands root s) {step : Step σ ν} (ha : Admits root s step) :
    Effect root s (s.step step) step := by
  cases step with
  | event event =>
    cases event with
    | compile name trouble =>
      show Engine.Updates _ _ _ _ _ (left (Work.onFiles _ _)).files
      rw [files_onFiles]
      exact Engine.updates_compile h ha trouble
    | bake name b trouble =>
      constructor
      · show Engine.Updates _ _ _ _ _ (left (s.engine.bake name b.values b.named trouble (s.given b))).files
        rw [Engine.files_bake]
        exact Engine.updates_compile h ha trouble
      · intro fault files hrun
        exact ⟨_, by rw [Engine.bake_run, show (s.given b).files = s.world.files from rfl, hrun]⟩
    | renderText text b => exact Engine.files_renderText s.engine text b.values b.named (s.given b)
    | _ => trivial
  | resolve name => exact files_ask _ s.world
  | read name => exact files_ask _ s.world

theorem file_compile {files files' : Files} {e : Engine} {name : String}
    {trouble : WriteStep → Option Fault} {content : ByteArray}
    (h : e.Updates root name trouble files files') (hp : files'.node? p = some (.file content)) :
    files.node? p = some (.file content) ∨ ∃ source path written fs,
      e.templates.locate name = .ok source ∧ e.compile name trouble files = .ok (path, written) fs ∧
      p = Engine.artifactPlace root source := by
  unfold Engine.Updates at h
  split at h
  · exact .inl ((h p).symm.trans hp)
  · next path written fs hrun =>
    obtain ⟨source, text, hl, -, -, -, -, hother, -⟩ := h
    by_cases hplace : p = Engine.artifactPlace root source
    · exact .inr ⟨source, path, written, fs, hl, hrun, hplace⟩
    · exact .inl ((hother p hplace).symm.trans hp)

theorem file_step (h : Stands root s) {step : Step σ ν} (ha : Admits root s step) {content : ByteArray}
    (hp : (s.step step).world.files.node? p = some (.file content)) :
    s.world.files.node? p = some (.file content) ∨ Made root s step p := by
  have heffect := effect_step h ha
  cases step with
  | event event =>
    cases event with
    | write parts content' =>
      change (left (Work.onFiles (Disk.write parts content') s.world)).files.node? p = _ at hp
      rw [files_onFiles] at hp
      rcases Disk.file_write hp with hold | ⟨hfind, hfolder⟩
      · exact .inl hold
      · exact .inr (.write hfind hfolder)
    | remove parts =>
      change (left (Work.onFiles (Disk.remove parts) s.world)).files.node? p = _ at hp
      rw [files_onFiles] at hp
      exact .inl (Disk.file_remove hp)
    | makeFolder parts =>
      change (left (Work.onFiles (Disk.makeFolder parts) s.world)).files.node? p = _ at hp
      rw [files_onFiles] at hp
      exact .inl (Disk.file_makeFolder hp)
    | recreate directory extension folder =>
      change (s.recreate directory extension folder).world.files.node? p = _ at hp
      rw [(recreate_same h ha).1] at hp
      exact .inl hp
    | compile name trouble =>
      rcases file_compile heffect hp with hold | ⟨source, path, written, fs, hl, hrun, rfl⟩
      · exact .inl hold
      · exact .inr (.compile hl hrun)
    | bake name b trouble =>
      rcases file_compile heffect.1 hp with hold | ⟨source, path, written, fs, hl, hrun, rfl⟩
      · exact .inl hold
      · exact .inr (.bake hl hrun)
    | renderText text b => exact .inl (heffect ▸ hp)
  | resolve name => exact .inl (heffect ▸ hp)
  | read name => exact .inl (heffect ▸ hp)

theorem Stands.run {before after : List (Step σ ν)} (h : Stands root s)
    (ha : ∀ front step back, before ++ after = front ++ step :: back → Admits root (s.run front) step) :
    Stands root (s.run before) := by
  induction before generalizing s with
  | nil => exact h
  | cons step before ih =>
    refine ih (h.step (ha [] step (before ++ after) rfl)) fun front step' back hsplit => ?_
    exact ha (step :: front) step' back (by rw [List.cons_append, hsplit]; rfl)

theorem file_run {steps : List (Step σ ν)} (h : Stands root s)
    (ha : ∀ before step after, steps = before ++ step :: after → Admits root (s.run before) step)
    {content : ByteArray} (hp : (s.run steps).world.files.node? p = some (.file content)) :
    s.world.files.node? p = some (.file content) ∨
      ∃ before step after, steps = before ++ step :: after ∧ Made root (s.run before) step p := by
  induction steps generalizing s with
  | nil => exact .inl hp
  | cons step steps ih =>
    have hstep := ha [] step steps rfl
    have hrest : ∀ before step' after, steps = before ++ step' :: after →
        Admits root ((s.step step).run before) step' := fun before step' after hsplit =>
      ha (step :: before) step' after (by rw [hsplit]; rfl)
    rcases ih (h.step hstep) hrest hp with hold | ⟨before, step', after, hsplit, hmade⟩
    · rcases file_step h hstep hold with hfirst | hmade
      · exact .inl hfirst
      · exact .inr ⟨[], step, steps, rfl, hmade⟩
    · exact .inr ⟨step :: before, step', after, by rw [hsplit]; rfl, hmade⟩

/-- After any run that begins with an empty folder, each file in the folder is an artifact of a template
that some step compiled, or was written there by some step, and each step has the effect on the files that
it should have. -/
theorem folder_of_run {steps : List (Step σ ν)} (h : Stands root s)
    (hempty : ∀ p content, root <+: p → s.world.files.node? p ≠ some (.file content))
    (ha : ∀ before step after, steps = before ++ step :: after → Admits root (s.run before) step) :
    (∀ p content, root <+: p → (s.run steps).world.files.node? p = some (.file content) →
      ∃ before step after, steps = before ++ step :: after ∧ Made root (s.run before) step p) ∧
    ∀ before step after, steps = before ++ step :: after →
      Effect root (s.run before) ((s.run before).step step) step := by
  constructor
  · intro p content hroot hp
    rcases file_run h ha hp with hold | hmade
    · exact absurd hold (hempty p content hroot)
    · exact hmade
  · rintro before step after rfl
    exact effect_step (h.run ha) (ha before step after rfl)

theorem folder_of_run_sample :
    let b : Bindings Store Value := ⟨Store.empty, ⟨[], false⟩, [("n", .bool true)]⟩
    let write : Step Store Value := .event (.write ["cached", "notes"] "z".toUTF8)
    let bake (trouble : WriteStep → Option Fault) : Step Store Value := .event (.bake "a" b trouble)
    let fails : WriteStep → Option Fault := fun step => if step = .replace then some .isDirectory else none
    Stands ["cached"] sample ∧ Admits ["cached"] (sample.run [write]) (bake noTrouble) ∧
      Effect ["cached"] (sample.run [write]) ((sample.run [write]).step (bake noTrouble)) (bake noTrouble) ∧
      Effect ["cached"] (sample.run [write]) ((sample.run [write]).step (bake fails)) (bake fails) ∧
      ∀ p content, ["cached"] <+: p →
        (sample.run [write, bake noTrouble]).world.files.node? p = some (.file content) →
        ∃ before step after, [write, bake noTrouble] = before ++ step :: after ∧
          Made ["cached"] (sample.run before) step p := by
  intro b write bake fails
  have he : Stands ["cached"] sample := enter_sampleFiles
  have hfind : sampleFiles.find ["cached", "notes"] = .ok ["cached", "notes"] := by
    show (sampleFiles.enter [] ["cached"] >>= fun folder => Files.next folder "notes") = _
    rw [enter_sampleFiles]
    show Files.next ["cached"] "notes" = _
    exact Files.next_plain (by decide) (by decide) (by decide)
  have hwritten : (sample.run [write]).world.files = sampleFiles.put ["cached", "notes"] (.file "z".toUTF8) := by
    show (left (Work.onFiles (Disk.write ["cached", "notes"] "z".toUTF8) sample.world)).files = _
    rw [files_onFiles, Disk.write_run, show sample.world.files.find _ = _ from hfind]
    rfl
  have hroot : (sample.run [write]).world.files.enter [] ["cached"] = .ok ["cached"] := by
    have hadmits : Admits ["cached"] sample write := trivial
    exact he.step hadmits
  have hnode (identity : String) : (sample.run [write]).world.files.node?
      (["cached"] ++ [fileName (Digest.ofText identity)]) = none := by
    have hname : fileName (Digest.ofText identity) ≠ "notes" := by
      intro h
      have hlen := congrArg (fun name => name.toList.length) h
      simp [fileName, Digest.ofText] at hlen
    rw [hwritten, Files.node?_put_of_ne (by simpa using hname)]
    exact node?_sampleFiles _ []
  have hsource : sampleEngine.source (sample.run [write]).world.files "a" = .ok "x@if(n)y@endif" := by
    rw [hwritten]
    exact source_sampleEngine rfl
  have hneeded : ∀ n, Needed (sampleEngine.source (sample.run [write]).world.files) "a" n → n = "a" := by
    intro n hn
    induction hn with
    | itself => rfl
    | included _ ht hk ih =>
      subst ih
      obtain rfl := Except.ok.inj (hsource.symm.trans ht)
      have hnone : includeNames "x@if(n)y@endif".toList = [] := by decide +kernel
      rw [hnone] at hk
      cases hk
  have hfair (trouble : WriteStep → Option Fault) : Admits ["cached"] (sample.run [write]) (bake trouble) := by
    constructor
    · intro n hn place hplace
      obtain rfl := hneeded n hn
      obtain rfl := Except.ok.inj (locate_sampleEngine.symm.trans hplace)
      decide
    · intro identity compiled _
      exact told_of_missing hroot (hnode identity)
  have hempty : ∀ p content, ["cached"] <+: p → sampleFiles.node? p ≠ some (.file content) := by
    rintro p content ⟨_ | ⟨part, rest⟩, rfl⟩
    · simp [sampleFiles, Files.node?, Files.put, Files.empty, Files.without, List.lookup_cons]
    · simp [node?_sampleFiles]
  have hadmits (trouble : WriteStep → Option Fault) : ∀ before step after,
      [write, bake trouble] = before ++ step :: after → Admits ["cached"] (sample.run before) step := by
    intro before step after hsplit
    rcases before with _ | ⟨first, _ | ⟨second, rest⟩⟩
    · obtain ⟨rfl, -⟩ := List.cons.inj hsplit
      trivial
    · obtain ⟨rfl, htail⟩ := List.cons.inj hsplit
      obtain ⟨rfl, -⟩ := List.cons.inj htail
      exact hfair trouble
    · simp at hsplit
  obtain ⟨hfolder, heffect⟩ := folder_of_run he hempty (hadmits noTrouble)
  exact ⟨he, hfair noTrouble, heffect [write] (bake noTrouble) [] rfl,
    (folder_of_run he hempty (hadmits fails)).2 [write] (bake fails) [] rfl, hfolder⟩

end Site

end Stencil
