import Stencil.Proofs.Render.Block
import Stencil.Proofs.Template.Concat
/-!
# What templates side by side give

Two templates side by side give what the first gives and then what the second gives over the values that the
first has left. Only those values carry over: no name that a loop binds does, and nothing of the second is
evaluated when the first fails.
-/

namespace Stencil

open Session Template

variable {σ ν : Type} {L : Language σ ν}

namespace Template

@[simp] theorem fields_append (a b : Body) : fields (a ++ b) = fields a ++ fields b := by
  induction a with
  | nil => rfl
  | cons i a ih => exact congrArg (List.cons _) ih

end Template

theorem ok_of_toOption {α : Type} {x : Except Fault α} {a : α} (h : x.toOption = some a) : x = .ok a := by
  cases x with
  | error fault => cases h
  | ok b => exact congrArg Except.ok (Option.some.inj h)

namespace Render

theorem runAll_append (scope : Scope ν) (a b : List (Instruction Json)) :
    (runAll scope (a ++ b) : Rendering L String) = do
      let x ← runAll scope a
      let y ← runAll scope b
      return x ++ y := by
  induction a with
  | nil =>
    rw [List.nil_append, runAll]
    simp only [pure_bind, String.empty_append, bind_pure]
  | cons i a ih =>
    rw [List.cons_append, runAll, runAll, ih]
    simp only [bind_assoc, pure_bind, String.append_assoc]

theorem runAll_literals (scope : Scope ν) (x y : String) (rest : List (Instruction Json)) :
    (runAll scope (.literal (.str (x ++ y)) :: rest) : Rendering L String) =
      runAll scope (.literal (.str x) :: .literal (.str y) :: rest) := by
  simp only [runAll, run, fieldText, pure_bind, bind_assoc, String.append_assoc]

theorem runAll_joinBodies (scope : Scope ν) (a b : Body) :
    (runAll scope (fields (joinBodies a b)) : Rendering L String) = do
      let x ← runAll scope (fields a)
      let y ← runAll scope (fields b)
      return x ++ y := by
  rw [← runAll_append, ← fields_append]
  unfold joinBodies
  split
  · next x y rest hlast =>
    obtain ⟨before, rfl⟩ := List.getLast?_eq_some_iff.1 hlast
    rw [List.dropLast_concat, List.append_assoc, fields_append, fields_append, runAll_append, runAll_append]
    refine bind_congr fun output => congrArg (· >>= _) ?_
    exact runAll_literals scope x y (fields rest)
  · rfl

theorem exists_of_outcome {α : Type} {x : Rendering L α} {s : Session L} {a : α} {store : σ}
    (h : outcome (x s) = (.ok a, store)) : ∃ t, x s = .ok a t ∧ t.store = store := by
  cases hrun : x s with
  | error fault t =>
    rw [hrun] at h
    cases (Prod.mk.inj h).1
  | ok b t =>
    rw [hrun] at h
    obtain ⟨hb, hstore⟩ := Prod.mk.inj h
    obtain rfl := Except.ok.inj hb
    exact ⟨t, rfl, hstore⟩

variable {x y : Rendering L String}

theorem outcome_in_turn {s : Session L}
    (h : ∀ a t, x s = .ok a t → (outcome (y t)).1 = (outcome (y s)).1) :
    (outcome ((do let a ← x; let b ← y; return a ++ b : Rendering L String) s)).1 = do
      let a ← (outcome (x s)).1
      let b ← (outcome (y s)).1
      return a ++ b := by
  rw [bind_run]
  cases hrun : x s with
  | error fault t => rfl
  | ok a t =>
    dsimp only
    rw [bind_run, ← h a t hrun]
    cases y t <;> rfl

theorem outcome_in_turn_of_unchanged {s : Session L} (hx : (outcome (x s)).2 = s.store)
    (hy : Indifferent y) :
    (outcome ((do let a ← x; let b ← y; return a ++ b : Rendering L String) s)).1 = do
      let a ← (outcome (x s)).1
      let b ← (outcome (y s)).1
      return a ++ b := by
  refine outcome_in_turn fun a t hrun => ?_
  rw [hrun] at hx
  rw [hy t s hx]

theorem outcome_in_turn_of_functional {E : Evaluator} {x y : Rendering E.language String}
    {s : Session E.language} (hx : Functional none s x) (hy : Functional none s y) :
    (outcome ((do let a ← x; let b ← y; return a ++ b : Rendering E.language String) s)).1 = do
      let a ← (outcome (x s)).1
      let b ← (outcome (y s)).1
      return a ++ b := by
  refine outcome_in_turn fun a t hrun => (hy t ?_).1
  obtain ⟨-, hkept⟩ := hx s (.refl _ _)
  rw [hrun] at hkept
  exact hkept

end Render

namespace Template

open Render

/-- Two templates without includes, side by side, are the template of both trees, where literals that meet are
one, when the tags of the whole text are those of the first and then those of the second. A render of the whole
is a render of the first and then, unless that fails, a render of the second under the same scope, over the
values that the first has left. These are the two renders by themselves when the first leaves the values as
they were, and when both are functions of their scopes. -/
theorem templates_side_by_side {resolve : Resolver} {first second : String} {a b : Body}
    (hfirst : Free first.toList) (hsecond : Free second.toList) (ha : parseText resolve first = .ok a)
    (hb : parseText resolve second = .ok b) (htags : TagsMeet first.toList second.toList) :
    parseText resolve (first ++ second) = .ok (joinBodies a b) ∧
    (∀ {σ ν : Type} (L : Language σ ν) (scope : Scope ν),
      (output resolve (first ++ second) scope : Rendering L String) = (do
        let x ← output resolve first scope
        let y ← output resolve second scope
        return x ++ y) ∧
      ∀ s : Session L, (outcome (output resolve first scope s)).2 = s.store →
        (outcome (output resolve (first ++ second) scope s)).1 = do
          let x ← (outcome (output resolve first scope s)).1
          let y ← (outcome (output resolve second scope s)).1
          return x ++ y) ∧
    ∀ (E : Evaluator) (scope : Scope Value) (s : Session E.language),
      Functional none s (output resolve first scope) → Functional none s (output resolve second scope) →
      (outcome (output resolve (first ++ second) scope s)).1 = do
        let x ← (outcome (output resolve first scope s)).1
        let y ← (outcome (output resolve second scope s)).1
        return x ++ y := by
  have hparse := parseText_append hfirst hsecond htags ha hb
  have hrender {σ ν : Type} (L : Language σ ν) (scope : Scope ν) :
      (output resolve (first ++ second) scope : Rendering L String) = do
        let x ← output resolve first scope
        let y ← output resolve second scope
        return x ++ y := by
    rw [output_of_parseText hparse, output_of_parseText ha, output_of_parseText hb]
    exact runAll_joinBodies scope a b
  refine ⟨hparse, fun L scope => ⟨hrender L scope, fun s hs => ?_⟩, fun E scope s hx hy => ?_⟩
  · rw [hrender]
    refine outcome_in_turn_of_unchanged hs ?_
    rw [output_of_parseText hb]
    exact indifferent_runAll scope (fields b)
  · rw [hrender]
    exact outcome_in_turn_of_functional hx hy

theorem templates_side_by_side_sample :
    let first := "\x7b\x7b v \x7d\x7da"
    let second := "b\x7b\x7b v \x7d\x7d"
    let scope : Scope Value := Scope.ofList [("v", .text "<")]
    let s := Session.fresh Expression.language Store.empty
    Free first.toList ∧ Free second.toList ∧ TagsMeet first.toList second.toList ∧
      parseText none first = .ok [.echo "v", .literal "a"] ∧
      parseText none second = .ok [.literal "b", .echo "v"] ∧
      parseText none (first ++ second) = .ok [.echo "v", .literal "ab", .echo "v"] ∧
      Functional none s (output none first scope) ∧ Functional none s (output none second scope) ∧
      (outcome ((output none (first ++ second) scope : Evaluation String) s)).1 = .ok "&lt;ab&lt;" := by
  intro first second scope s
  have hfirst : Free first.toList := ⟨by decide +kernel⟩
  have hsecond : Free second.toList := ⟨by decide +kernel⟩
  have htags : TagsMeet first.toList second.toList := by
    unfold TagsMeet
    decide +kernel
  have ha : parseText none first = .ok [.echo "v", .literal "a"] := by
    have h₁ : Tag.next? Tag.scanRules first.toList = some ([], ⟨.echo, ['v'], ['a']⟩) := by decide
    rw [parseText_free hfirst, parse, pieces, piecesFrom_mark h₁ rfl, piecesFrom_end (s := ['a']) rfl]
    rfl
  have hb : parseText none second = .ok [.literal "b", .echo "v"] := by
    have h₁ : Tag.next? Tag.scanRules second.toList = some (['b'], ⟨.echo, ['v'], []⟩) := by decide
    rw [parseText_free hsecond, parse, pieces, piecesFrom_mark h₁ rfl, piecesFrom_end (s := []) rfl]
    rfl
  have hjoin : joinBodies [.echo "v", .literal "a"] [.literal "b", .echo "v"] =
      [.echo "v", .literal "ab", .echo "v"] := by
    simp [joinBodies]
  have hecho (t : Session Expression.language) :
      ∃ u, (runAll scope (fields [.echo "v"]) : Evaluation String) t = .ok "&lt;" u ∧ u.store = t.store := by
    have hescape : String.ofList (Text.escape "<".toList) = "&lt;" := by decide +kernel
    have hv : scope.find? "v" = some (.text "<") := rfl
    exact exists_of_outcome (hescape ▸ outcome_echo_v hv rfl t)
  have hlone (t : Session Expression.language) :
      outcome ((output none first scope : Evaluation String) t) = (.ok "&lt;a", t.store) := by
    have hfields : fields [.echo "v", .literal "a"] = fields [.echo "v"] ++ fields [.literal "a"] := rfl
    obtain ⟨u, hu, hstore⟩ := hecho t
    rw [output_of_parseText ha, hfields, runAll_append, bind_ok hu, ← hstore]
    rfl
  have hother (t : Session Expression.language) :
      outcome ((output none second scope : Evaluation String) t) = (.ok "b&lt;", t.store) := by
    have hfields : fields [.literal "b", .echo "v"] = fields [.literal "b"] ++ fields [.echo "v"] := rfl
    obtain ⟨u, hu, hstore⟩ := hecho t
    have hb' : (runAll scope (fields [.literal "b"]) : Evaluation String) t = .ok "b" t := rfl
    rw [output_of_parseText hb, hfields, runAll_append, bind_ok hb', bind_ok hu, ← hstore]
    rfl
  obtain ⟨hparse, -, hrender⟩ := templates_side_by_side hfirst hsecond ha hb htags
  have hx : Functional none s (output none first scope) := functional_of_outcome hlone
  have hy : Functional none s (output none second scope) := functional_of_outcome hother
  rw [hjoin] at hparse
  refine ⟨hfirst, hsecond, htags, ha, hb, hparse, hx, hy, ?_⟩
  rw [hrender _ scope s hx hy, hlone, hother]
  rfl

/-- A list that an expression changes carries over: the first render takes its last item and the second the one
before, where each render by itself takes the last. -/
theorem pop_carries_over :
    let text := "\x7b\x7b xs.pop() \x7d\x7d"
    let scope : Scope Value := Scope.ofList [("xs", .list 0)]
    let s := Session.fresh Expression.language ⟨#[.list #[.text "a", .text "b"]]⟩
    Free text.toList ∧ parseText none text = .ok [.echo "xs.pop()"] ∧ TagsMeet text.toList text.toList ∧
      (outcome ((output none text scope : Evaluation String) s)).1 = .ok "b" ∧
      (outcome ((output none (text ++ text) scope : Evaluation String) s)).1 = .ok "ba" ∧
      (outcome ((output none (text ++ text) scope : Evaluation String) s)).1 ≠ do
        let x ← (outcome ((output none text scope : Evaluation String) s)).1
        let y ← (outcome ((output none text scope : Evaluation String) s)).1
        return x ++ y := by
  intro text scope s
  have hfree : Free text.toList := ⟨by decide +kernel⟩
  have htags : TagsMeet text.toList text.toList := by
    unfold TagsMeet
    decide +kernel
  have hparse : parseText none text = .ok [.echo "xs.pop()"] := by
    have h₁ : Tag.next? Tag.scanRules text.toList = some ([], ⟨.echo, "xs.pop()".toList, []⟩) := by
      decide +kernel
    rw [parseText_free hfree, parse, pieces, piecesFrom_mark h₁ rfl, piecesFrom_end (s := []) rfl]
    rfl
  have hlone : (outcome ((output none text scope : Evaluation String) s)).1.toOption = some "b" := by
    decide +kernel
  have htwice : (outcome ((output none (text ++ text) scope : Evaluation String) s)).1.toOption = some "ba" := by
    decide +kernel
  have hlone := ok_of_toOption hlone
  have htwice := ok_of_toOption htwice
  refine ⟨hfree, hparse, htags, hlone, htwice, ?_⟩
  rw [hlone, htwice]
  intro h
  exact absurd (Except.ok.inj h) (by decide)

end Template

end Stencil
