import Stencil.Proofs.Render.Block
import Stencil.Proofs.Text.Entity
import Stencil.Sink
/-!
# What an output is made of

An output is made of the texts of literals and of the escaped texts of values, one after the other. So what
is special in markup comes from literals alone.
-/

namespace Stencil

inductive Leaf (φ : Type) where
  | literal (text : φ)
  | echo (expr : φ)
deriving Repr, DecidableEq

namespace Instruction

variable {φ : Type}

mutual

def leaves : Instruction φ → List (Leaf φ)
  | .literal text => [.literal text]
  | .echo expr => [.echo expr]
  | .choose arms otherwise => leavesArms arms ++ leavesOtherwise otherwise
  | .loop _ _ _ body => leavesAll body
  | .stray _ => []

def leavesArms : List (Arm φ) → List (Leaf φ)
  | [] => []
  | .mk _ body :: rest => leavesAll body ++ leavesArms rest

def leavesOtherwise : Option (List (Instruction φ)) → List (Leaf φ)
  | none => []
  | some body => leavesAll body

/-- The leaves of instructions, one after the other. -/
def leavesAll : List (Instruction φ) → List (Leaf φ)
  | [] => []
  | i :: rest => leaves i ++ leavesAll rest

end

end Instruction

namespace Scope

variable {ν : Type}

/-- A scope with further names bound, or spoiled, on top of another. -/
inductive Inner (outer : Scope ν) : Scope ν → Prop where
  | refl : Inner outer outer
  | bind {inner : Scope ν} (h : Inner outer inner) (name : String) (v : ν) : Inner outer (inner.bind name v)
  | spoil {inner : Scope ν} (h : Inner outer inner) : Inner outer inner.spoil

end Scope

namespace Render

open Session Text Instruction

/-- What a leaf can write: its text, or the escaped text of a value that its expression has under a scope
with further names bound. The value none has no text. -/
inductive Writes (E : Evaluator) (outer : Scope Value) : Leaf Json → String → Prop where
  | literal (text : String) : Writes E outer (.literal (.str text)) text
  | nothing {scope : Scope Value} {expr : String} {s t : Session E.language}
      (hscope : outer.Inner scope) (hvalue : evaluate scope expr s = .ok .none t) :
      Writes E outer (.echo (.str expr)) ""
  | value {scope : Scope Value} {expr shown : String} {v : Value} {s t : Session E.language}
      {store : Store} (hscope : outer.Inner scope) (hvalue : evaluate scope expr s = .ok v t)
      (hsome : v ≠ .none) (hshown : v.display t.store = .ok shown store) :
      Writes E outer (.echo (.str expr)) (String.ofList (escape shown.toList))

def Composed (E : Evaluator) (outer : Scope Value) (given : List (Leaf Json)) (output : String) : Prop :=
  ∃ pieces, output = String.join pieces ∧ ∀ p ∈ pieces, ∃ leaf ∈ given, Writes E outer leaf p

variable {E : Evaluator} {outer scope : Scope Value} {given more : List (Leaf Json)} {output output' : String}

theorem composed_empty : Composed E outer given "" := ⟨[], rfl, nofun⟩

theorem Composed.append (h : Composed E outer given output) (h' : Composed E outer given output') :
    Composed E outer given (output ++ output') := by
  obtain ⟨pieces, rfl, hpieces⟩ := h
  obtain ⟨pieces', rfl, hpieces'⟩ := h'
  refine ⟨pieces ++ pieces', String.join_append.symm, fun p hp => ?_⟩
  exact (List.mem_append.1 hp).elim (hpieces p) (hpieces' p)

theorem Composed.mono (h : Composed E outer given output) (hsub : given ⊆ more) :
    Composed E outer more output := by
  obtain ⟨pieces, heq, hpieces⟩ := h
  refine ⟨pieces, heq, fun p hp => ?_⟩
  obtain ⟨leaf, hleaf, hw⟩ := hpieces p hp
  exact ⟨leaf, hsub hleaf, hw⟩

theorem Writes.composed {leaf : Leaf Json} (h : Writes E outer leaf output) :
    Composed E outer [leaf] output := by
  refine ⟨[output], (String.join_cons.trans String.append_empty).symm, fun p hp => ?_⟩
  obtain rfl := List.mem_singleton.1 hp
  exact ⟨leaf, List.mem_cons_self, h⟩

theorem yields_literal (text : Json) :
    Yields (Composed E outer [.literal text]) (fieldText text : Rendering E.language String) := by
  unfold fieldText
  split
  · exact yields_pure (Writes.literal _).composed
  · exact yields_throw _

theorem echo_eq_map {σ ν : Type} (L : Language σ ν) (v : ν) :
    L.echo v = (fun shown => String.ofList (escape shown.toList)) <$> L.display v :=
  bind_pure_comp _ _

theorem shown_of_echo {σ ν : Type} {L : Language σ ν} {v : ν} {s t : Session L}
    (h : lift (L.echo v) s = .ok output t) :
    ∃ shown store, L.display v s.store = .ok shown store ∧ output = String.ofList (escape shown.toList) := by
  rw [lift, echo_eq_map, map_run] at h
  cases hshown : L.display v s.store with
  | ok shown store =>
    rw [hshown] at h
    obtain ⟨rfl, -⟩ := EStateM.Result.ok.inj h
    exact ⟨shown, store, rfl, rfl⟩
  | error fault store =>
    rw [hshown] at h
    cases h

theorem display_eq (E : Evaluator) {v : Value} (h : v ≠ .none) : E.language.display v = v.display := by
  show v.output = v.display
  rw [Value.output]
  exact h

theorem yields_echo (hscope : outer.Inner scope) (expr : Json) : Yields (Composed E outer [.echo expr])
    (evaluateField scope expr >>= fun v => lift (E.language.echo v) : Rendering E.language String) := by
  cases expr with
  | str expr =>
    intro s output t hrun
    rw [evaluateField_str, bind_run] at hrun
    cases hvalue : (evaluate scope expr : Rendering E.language Value) s with
    | error fault u =>
      rw [hvalue] at hrun
      cases hrun
    | ok v u =>
      rw [hvalue] at hrun
      obtain ⟨shown, store, hshown, rfl⟩ := shown_of_echo hrun
      by_cases hnone : v = .none
      · subst hnone
        cases hshown
        exact (Writes.nothing hscope hvalue).composed
      · rw [display_eq E hnone] at hshown
        exact (Writes.value hscope hvalue hnone hshown).composed
  | _ => exact yields_throw _

theorem yields_bindField (hscope : outer.Inner scope) (name : Json) (v : Value) :
    Yields outer.Inner (bindField scope name v : Rendering E.language (Scope Value)) := by
  unfold bindField
  split
  · exact yields_pure (hscope.bind _ v)
  · exact yields_throw _
  · exact yields_throw _
  · exact yields_pure hscope.spoil

theorem yields_bindPair (hscope : outer.Inner scope) (key : Option Json) (value : Json) (pair : Value × Value) :
    Yields outer.Inner (bindPair scope key value pair : Rendering E.language (Scope Value)) := by
  cases key with
  | none => exact yields_bindField hscope value pair.2
  | some name =>
    exact (yields_bindField hscope name pair.1).bind fun inner hinner => yields_bindField hinner value pair.2

theorem yields_forEach {step : Value × Value → Rendering E.language String}
    (hstep : ∀ pair, Yields (Composed E outer given) (step pair)) (fuel : Nat) (cursor : E.language.Cursor)
    (h : Composed E outer given output) : Yields (Composed E outer given) (forEach step fuel cursor output) := by
  induction fuel generalizing cursor output with
  | zero => exact yields_throw _
  | succ fuel ih =>
    refine Yields.after fun found => ?_
    cases found with
    | none => exact yields_pure h
    | some found => exact (hstep found.1).bind fun more hmore => ih found.2 (h.append hmore)

mutual

theorem yields_run : ∀ (i : Instruction Json) {scope : Scope Value}, outer.Inner scope →
    Yields (Composed E outer (leaves i)) (run scope i : Rendering E.language String)
  | .literal text, _, _ => yields_literal text
  | .echo expr, _, hscope => yields_echo hscope expr
  | .choose arms otherwise, _, hscope => by
    refine (yields_runArms arms hscope).bind fun result harms => ?_
    cases result with
    | some output => exact yields_pure ((harms output rfl).mono (List.subset_append_left _ _))
    | none =>
      exact (yields_runOtherwise otherwise hscope).mono fun output h => h.mono (List.subset_append_right _ _)
  | .loop iterable key value body, _, hscope => by
    refine Yields.after fun v => Yields.after fun cursor => Yields.after fun pending => ?_
    refine yields_forEach (fun pair => ?_) (pending + longestGrowth) cursor composed_empty
    exact (yields_bindPair hscope key value pair).bind fun inner hinner => yields_runAll body hinner
  | .stray _, _, _ => yields_throw _

theorem yields_runArms : ∀ (arms : List (Arm Json)) {scope : Scope Value}, outer.Inner scope →
    Yields (fun result => ∀ output ∈ result, Composed E outer (leavesArms arms) output)
      (runArms scope arms : Rendering E.language (Option String))
  | [], _, _ => yields_pure nofun
  | .mk cond body :: rest, _, hscope => by
    refine Yields.after fun v => Yields.after fun holds => ?_
    cases holds with
    | true =>
      refine (yields_runAll body hscope).bind fun output h => yields_pure fun output' heq => ?_
      obtain rfl := Option.mem_some.1 heq
      exact h.mono (List.subset_append_left _ _)
    | false =>
      refine (yields_runArms rest hscope).mono fun result h output heq => ?_
      exact (h output heq).mono (List.subset_append_right _ _)

theorem yields_runOtherwise : ∀ (otherwise : Option (List (Instruction Json))) {scope : Scope Value},
    outer.Inner scope →
    Yields (Composed E outer (leavesOtherwise otherwise)) (runOtherwise scope otherwise : Rendering E.language String)
  | none, _, _ => yields_pure composed_empty
  | some body, _, hscope => yields_runAll body hscope

theorem yields_runAll : ∀ (body : List (Instruction Json)) {scope : Scope Value}, outer.Inner scope →
    Yields (Composed E outer (leavesAll body)) (runAll scope body : Rendering E.language String)
  | [], _, _ => yields_pure composed_empty
  | i :: rest, _, hscope => by
    refine (yields_run i hscope).bind fun output h => ?_
    refine (yields_runAll rest hscope).bind fun more h' => yields_pure ?_
    exact (h.mono (List.subset_append_left _ _)).append (h'.mono (List.subset_append_right _ _))

end

theorem foldlM_write (before : String) (texts : List String) :
    texts.foldlM (fun sink text => sink.write (.str text)) (Sink.opened before) =
      .ok (Sink.opened (before ++ String.join texts)) := by
  induction texts generalizing before with
  | nil => exact congrArg (fun text => Except.ok (Sink.opened text)) String.append_empty.symm
  | cons text texts ih =>
    rw [List.foldlM_cons, String.join_cons, ← String.append_assoc]
    exact ih (before ++ text)

theorem capture_eq_join (texts : List String) : Sink.capture texts = .ok (String.join texts) := by
  rw [Sink.capture, Sink.fresh, foldlM_write, String.empty_append]
  rfl

/-- The text of no literal has a character. -/
def Without (c : Char) (given : List (Leaf Json)) : Prop :=
  ∀ text : String, .literal (.str text) ∈ given → c ∉ text.toList

theorem Writes.not_mem {leaf : Leaf Json} {c : Char} (h : Writes E outer leaf output) (hleaf : leaf ∈ given)
    (hfree : Without c given) (hspecial : c ∈ namedEntities.map (·.1)) (hne : c ≠ '&') : c ∉ output.toList := by
  cases h with
  | literal => exact hfree output hleaf
  | nothing => exact List.not_mem_nil
  | value hscope hvalue hsome hshown =>
    rw [String.toList_ofList]
    exact not_mem_escape hspecial hne _

theorem Writes.marked {leaf : Leaf Json} (h : Writes E outer leaf output) (hleaf : leaf ∈ given)
    (hfree : Without '&' given) : Marked output.toList := by
  cases h with
  | literal => exact marked_of_not_mem (hfree output hleaf)
  | nothing => exact marked_of_not_mem List.not_mem_nil
  | value hscope hvalue hsome hshown =>
    rw [String.toList_ofList]
    exact marked_escape _

/-- An output is what a sink gathers from the texts of literals and the escaped texts of values. So a special
character comes from a literal, and when no ampersand does, each one begins an entity. -/
theorem output_escaped {body : List (Instruction Json)} {s t : Session E.language}
    (h : runAll scope body s = .ok output t) :
    (∃ pieces, output = String.join pieces ∧ Sink.capture pieces = .ok output ∧
      ∀ p ∈ pieces, ∃ leaf ∈ leavesAll body, Writes E scope leaf p) ∧
    (∀ c ∈ ['<', '>', '"', '\''], Without c (leavesAll body) → c ∉ output.toList) ∧
    (Without '&' (leavesAll body) → ∀ before after, output.toList = before ++ '&' :: after →
      ∃ e ∈ ["&amp;", "&lt;", "&gt;", "&quot;", "&#x27;"], e.toList <+: '&' :: after) := by
  have hscope : scope.Inner scope := .refl
  obtain ⟨pieces, houtput, hpieces⟩ := yields_runAll body hscope s output t h
  have hlist : output.toList = (pieces.map String.toList).flatten := by
    rw [houtput, String.toList_join, List.flatMap_def]
  refine ⟨⟨pieces, houtput, houtput ▸ capture_eq_join pieces, hpieces⟩, ?_, ?_⟩
  · intro c hc hfree hmem
    have hspecial : c ∈ namedEntities.map (·.1) ∧ c ≠ '&' := by
      simp only [List.mem_cons, List.not_mem_nil, or_false] at hc
      rcases hc with rfl | rfl | rfl | rfl <;> decide
    rw [hlist, List.mem_flatten] at hmem
    obtain ⟨chars, hchars, hmem⟩ := hmem
    obtain ⟨p, hp, rfl⟩ := List.mem_map.1 hchars
    obtain ⟨leaf, hleaf, hw⟩ := hpieces p hp
    exact hw.not_mem hleaf hfree hspecial.1 hspecial.2 hmem
  · intro hfree before after hsplit
    have hmarked : Marked output.toList := by
      rw [hlist]
      refine Marked.flatten fun chars hchars => ?_
      obtain ⟨p, hp, rfl⟩ := List.mem_map.1 hchars
      obtain ⟨leaf, hleaf, hw⟩ := hpieces p hp
      exact hw.marked hleaf hfree
    obtain ⟨e, he, hprefix⟩ := hmarked before after hsplit
    have hentities : entities = ["&amp;", "&lt;", "&gt;", "&quot;", "&#x27;"].map String.toList := rfl
    rw [hentities] at he
    obtain ⟨entity, hentity, rfl⟩ := List.mem_map.1 he
    exact ⟨entity, hentity, hprefix⟩

theorem output_escaped_sample :
    let body : List (Instruction Json) := [.literal (.str "x"), .echo (.str "v")]
    let scope : Scope Value := Scope.ofList [("v", .safe "<i>&amp;")]
    let output := "x&lt;i&gt;&amp;amp;"
    ∃ t, runAll scope body (Session.fresh Expression.language Store.empty) = .ok output t ∧
      '<' ∉ output.toList ∧
      ∀ before after, output.toList = before ++ '&' :: after →
        ∃ e ∈ ["&amp;", "&lt;", "&gt;", "&quot;", "&#x27;"], e.toList <+: '&' :: after := by
  intro body scope output
  have hfind : scope.find? "v" = some (.safe "<i>&amp;") := rfl
  obtain ⟨t, ht, -⟩ := evaluate_v hfind rfl (Session.fresh Expression.language Store.empty)
  have hecho : runAll scope [.echo (.str "v")] (Session.fresh Expression.language Store.empty) =
      .ok "&lt;i&gt;&amp;amp;" t := by
    rw [runAll_single, run, evaluateField_str, bind_ok ht]
    rfl
  have hrun : runAll scope body (Session.fresh Expression.language Store.empty) = .ok output t := by
    have hliteral : (run scope (.literal (.str "x")) : Evaluation String)
        (Session.fresh Expression.language Store.empty) = .ok "x" _ := rfl
    rw [runAll, bind_ok hliteral, bind_ok hecho]
    rfl
  have hwithout (c : Char) (hc : c ≠ 'x') : Without c (leavesAll body) := by
    intro text hmem
    rcases List.mem_cons.1 hmem with heq | hmem
    · cases heq
      exact fun h => hc (List.mem_singleton.1 h)
    · cases List.mem_singleton.1 hmem
  obtain ⟨-, hspecial, hmarked⟩ := output_escaped hrun
  exact ⟨t, hrun, hspecial '<' (by decide) (hwithout '<' (by decide)), hmarked (hwithout '&' (by decide))⟩

end Render

end Stencil
