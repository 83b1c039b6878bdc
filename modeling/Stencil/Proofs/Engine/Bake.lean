import Stencil.Proofs.Artifacts.RoundTrip
import Stencil.Proofs.Engine.History
import Stencil.Proofs.Template.Needed
import Stencil.Proofs.Template.Parse
import Stencil.Proofs.Template.Proper
/-!
# A bake is a rendering of the text

Baking goes through an artifact, and rendering does not. Both give the same, so what is stored, what is
remembered and what was done before do not matter for a bake.
-/

namespace Stencil

open Template Artifacts

variable {σ ν : Type} {L : Language σ ν}

namespace Engine

/-- The output of the template of a name, with no artifact read or written. -/
def renderSource (e : Engine) (name : String) (values : Scope ν) (named : List (String × ν)) :
    Work L String := do
  let text ← Work.onFiles (Disk.ask (e.source · name))
  e.renderText text values named

/-- A file that belongs to no other text can be written for the artifact that a template has now, and there is
room for the calls that its nesting takes. -/
structure Storable (e : Engine) (files : Files) (name : String) : Prop where
  free : ∀ identity compiled, e.artifact files name = .ok (identity, compiled) →
    ¬Blocked files (e.artifacts.path identity)
  told : ∀ identity compiled, e.artifact files name = .ok (identity, compiled) →
    Told files (e.artifacts.path identity) compiled
  shallow : ∀ text body, e.source files name = .ok text → parseText (e.resolver files) text = .ok body →
    Template.calls body ≤ callRoom

variable {e e' : Engine} {name : String} {w : World L}

theorem renderSource_run (e : Engine) (name : String) (values : Scope ν) (named : List (String × ν))
    (w : World L) :
    e.renderSource name values named w =
      match e.source w.files name with
      | .error fault => .error fault w
      | .ok text => e.renderText text values named w := by
  unfold renderSource
  cases hsource : e.source w.files name <;> simp [Work.onFiles, hsource]

theorem compile_read {body : Body} {text identity : String} {folder : List String} {files : Files}
    (he : files.enter [] e.artifacts.folder.parts = .ok folder) (hs : e.Storable files name)
    (hsource : e.source files name = .ok text) (hp : parseText (e.resolver files) text = .ok body)
    (ha : e.artifact files name = Prod.mk identity <$> dumpWithin callRoom (fields body)) :
    ∃ written files',
      e.compile name noTrouble files = .ok (e.artifacts.path identity, written) files' ∧
      files'.readText (e.artifacts.path identity) = .ok (dump (fields body)) ∧
      load (dump (fields body)) = .ok (fields body) := by
  have hbody : Instruction.Proper body := proper_parseText hp
  have hroom := hs.shallow text body hsource hp
  replace ha : e.artifact files name = .ok (identity, dump (fields body)) := by
    rw [ha, dump_fields hbody hroom]
    rfl
  obtain ⟨written, files', hrun, hread⟩ := ensure_read he (hs.free _ _ ha) (hs.told _ _ ha)
  refine ⟨written, files', ?_, ?_, load_dump_fields hbody hroom⟩
  · rw [compile_run, ha]
    simp only [hrun]
  · exact readText_of_read hread (printable_dump (readable_fields hbody))

theorem outcome_bake {folder : List String} (he : w.files.enter [] e.artifacts.folder.parts = .ok folder)
    (hs : e.Storable w.files name) (values : Scope ν) (named : List (String × ν)) :
    Work.outcome ((Prod.fst <$> e.bake name values named) w) =
      Work.outcome (e.renderSource name values named w) := by
  rw [map_run, renderSource_run]
  -- both fail alike before there is a tree, and with a tree both render it in the same session
  rcases artifact_cases e w.files name with
    ⟨fault, hsource, ha⟩ | ⟨text, fault, hsource, hp, ha⟩ | ⟨text, body, identity, hsource, hp, ha⟩
  · rw [bake_run, compile_run, ha, hsource]
  · rw [bake_run, compile_run, ha, hsource]
    simp only [renderText_run, hp]
  · obtain ⟨written, files, hrun, hread, hload⟩ := compile_read he hs hsource hp ha
    rw [bake_run, hrun, hsource]
    simp only [execute_of_load hread hload, renderText_run, hp, Work.inSession]
    cases Render.runAll (values.bindAll named) (fields body) w.session <;> rfl

theorem outcome_renderSource (w w' : World L) (hstore : w.session.store = w'.session.store)
    (hagree : ∀ m, Needed (e.source w.files) name m → e.source w.files m = e'.source w'.files m)
    (values : Scope ν) (named : List (String × ν)) :
    Work.outcome (e.renderSource name values named w) =
      Work.outcome (e'.renderSource name values named w') := by
  rw [renderSource_run, renderSource_run, ← hagree name .itself]
  cases ht : e.source w.files name with
  | error fault => exact congrArg (Prod.mk _) hstore
  | ok text =>
    have hparse : parseText (e.resolver w.files) text = parseText (e'.resolver w'.files) text :=
      parseText_congr ht hagree
    dsimp only
    rw [renderText_run, renderText_run, ← hparse]
    cases parseText (e.resolver w.files) text with
    | error fault => exact congrArg (Prod.mk _) hstore
    | ok body =>
      dsimp only
      rw [Work.outcome_inSession, Work.outcome_inSession]
      exact Render.indifferent_runAll _ (fields body) _ _ hstore

end Engine

namespace Site

/-- What baking a template gives, and the store that it leaves. -/
def bake (s : Site L) (name : String) (b : Bindings σ ν) : Except Fault String × σ :=
  Work.outcome ((Prod.fst <$> s.engine.bake name b.values b.named) (s.given b))

/-- What rendering the text of a template gives, and the store that it leaves. -/
def renderSource (s : Site L) (name : String) (b : Bindings σ ν) : Except Fault String × σ :=
  Work.outcome (s.engine.renderSource name b.values b.named (s.given b))

/-- The text of the template of a name. -/
def source (s : Site L) (name : String) : Except Fault String := s.engine.source s.world.files name

/-- A file can be written for the artifact of a template. -/
def Storable (s : Site L) (name : String) : Prop := s.engine.Storable s.world.files name

theorem bake_eq_renderSource {s : Site L} (hs : s.Rooted) {name : String} (hn : s.Storable name)
    (b : Bindings σ ν) : s.bake name b = s.renderSource name b := by
  obtain ⟨place, henter⟩ := hs
  exact Engine.outcome_bake (w := s.given b) henter hn b.values b.named

theorem renderSource_congr {s t : Site L} {name : String}
    (hagree : ∀ m, Needed s.source name m → s.source m = t.source m) (b : Bindings σ ν) :
    s.renderSource name b = t.renderSource name b :=
  Engine.outcome_renderSource (s.given b) (t.given b) rfl hagree b.values b.named

/-- After any history a bake gives what a rendering of the text gives, and two bakes give the same as soon
as their bindings are the same and the texts that the template is made of, whatever happened before. -/
theorem bake_depends_on_texts {s : Site L} (hs : s.Reachable) {name : String} (hn : s.Storable name) :
    (∀ b, s.bake name b = s.renderSource name b) ∧
    ∀ t : Site L, t.Reachable → t.Storable name → (∀ m, Needed s.source name m → s.source m = t.source m) →
      ∀ b, s.bake name b = t.bake name b := by
  refine ⟨bake_eq_renderSource hs.rooted hn, ?_⟩
  intro t ht hm hagree b
  calc s.bake name b
    _ = s.renderSource name b := bake_eq_renderSource hs.rooted hn b
    _ = t.renderSource name b := renderSource_congr hagree b
    _ = t.bake name b := (bake_eq_renderSource ht.rooted hm b).symm

theorem storable_sample : sample.Storable "a" where
  free _ _ _ := not_blocked_of_missing enter_sampleFiles (node?_sampleFiles _ [])
  told _ _ _ := told_of_missing enter_sampleFiles (node?_sampleFiles _ [])
  shallow text body hsource hparse := by
    obtain rfl := Except.ok.inj ((source_sampleEngine rfl).symm.trans hsource)
    have hexpand : expand (sample.engine.resolver sample.world.files) "x@if(n)y@endif".toList = _ :=
      expand_free ⟨by decide +kernel⟩
    have hcalls := calls_parse_le ((parseText_of_expand hexpand).symm.trans hparse)
    have hvisits : (visits "x@if(n)y@endif".toList).length ≤ 4 := by decide +kernel
    have hroom : callRoom = 980 := rfl
    omega

theorem bake_depends_on_texts_sample :
    let other : Bindings Store Value := ⟨Store.empty, ⟨[("xs", .text "ab")], false⟩, []⟩
    let t := sample.after (.renderText "@foreach(xs as x)z@endforeach" other)
    let b : Bindings Store Value := ⟨Store.empty, ⟨[], false⟩, [("n", .bool true)]⟩
    sample.Reachable ∧ sample.Storable "a" ∧ t.Storable "a" ∧ sample.bake "a" b = sample.renderSource "a" b ∧
      sample.bake "a" b = t.bake "a" b := by
  intro other t b
  have hfiles : t.world.files = sampleFiles := Engine.files_renderText sampleEngine _ _ _ (sample.given other)
  have ht : t.Storable "a" := by
    show sampleEngine.Storable t.world.files "a"
    rw [hfiles]
    exact storable_sample
  have hsource : t.source = sample.source := by
    show sampleEngine.source t.world.files = _
    rw [hfiles]
    rfl
  obtain ⟨hrender, hbakes⟩ := bake_depends_on_texts reachable_sample storable_sample
  refine ⟨reachable_sample, storable_sample, ht, hrender b, ?_⟩
  exact hbakes t (.step _ reachable_sample) ht (fun m _ => by rw [hsource]) b

end Site

end Stencil
