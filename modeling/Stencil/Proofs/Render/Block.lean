import Stencil.Proofs.Render.Free
import Stencil.Proofs.Render.Indifferent
import Stencil.Proofs.Template.Block
import Stencil.Proofs.Value.Cursor
/-!
# What a block gives

A template in a choice gives what it gives alone, or nothing. In a loop it gives what it gives alone for
each pair of the collection, one after the other.
-/

namespace Stencil

open Session

/-- The output of a template under a scope. -/
def Template.output {σ ν : Type} {L : Language σ ν} (resolve : Resolver) (text : String) (scope : Scope ν) :
    Rendering L String := do
  let body ← MonadExcept.ofExcept (parseText resolve text)
  Render.runAll scope (fields body)

/-- An inner scope in which the names of a loop stand for a pair, the item hiding the key, and all other
names for what they stood for outside. -/
structure Scope.Layered {ν : Type} (outer inner : Scope ν) (key value : String) (pair : ν × ν) : Prop where
  find : ∀ name, inner.find? name =
    if name = value then some pair.2 else if name = key then some pair.1 else outer.find? name
  spoiled : inner.spoiled = outer.spoiled

namespace Render

variable {E : Evaluator}

/-- A rendering that is a function of its scope: it gives the same wherever the cells of a session are
kept, and keeps the cells itself. -/
def Functional (drained : Option Nat) (s : Session E.language) (x : Rendering E.language String) : Prop :=
  ∀ t : Session E.language, s.store.Keeps drained t.store →
    (outcome (x t)).1 = (outcome (x s)).1 ∧ t.store.Keeps none (outcome (x t)).2

theorem functional_of_outcome {drained : Option Nat} {s : Session E.language} {x : Rendering E.language String}
    {result : Except Fault String} (h : ∀ t, outcome (x t) = (result, t.store)) : Functional drained s x := by
  intro t _
  rw [h t, h s]
  exact ⟨rfl, .refl _ _⟩

/-- The outputs for pairs, each from the same session, and after them the fault that there may be. -/
def eachAlone (step : Value × Value → Rendering E.language String) (s : Session E.language)
    (pairs : List (Value × Value)) (stop : Option Fault) : Except Fault String := do
  let outputs ← pairs.mapM fun pair => (outcome (step pair s)).1
  match stop with
  | some fault => .error fault
  | none => .ok (String.join outputs)

/-- What a loop over a collection gives when it gives each of its steps from the same session. -/
def loopOutput (collection : Rendering E.language Value) (step : Value × Value → Rendering E.language String)
    (s : Session E.language) : Except Fault String :=
  match collection s with
  | .error fault _ => .error fault
  | .ok v t =>
    match v.pairs t.store with
    | .error fault _ => .error fault
    | .ok (pairs, stop) _ => eachAlone step t pairs stop

/-- All steps of a loop over a collection are functions of their scopes. -/
def FunctionalSteps (collection : Rendering E.language Value) (step : Value × Value → Rendering E.language String)
    (s : Session E.language) : Prop :=
  ∀ v t, collection s = .ok v t → ∀ pairs stop store, v.pairs t.store = .ok (pairs, stop) store →
    ∀ pair ∈ pairs, Functional v.drained t (step pair)

variable {s t : Session E.language} {step : Value × Value → Rendering E.language String}
  {stop : Option Fault}

theorem eachAlone_cons (step : Value × Value → Rendering E.language String) (s : Session E.language)
    (pair : Value × Value) (pairs : List (Value × Value)) (stop : Option Fault) :
    eachAlone step s (pair :: pairs) stop =
      (outcome (step pair s)).1 >>= fun output => (eachAlone step s pairs stop).map (output ++ ·) := by
  unfold eachAlone
  rw [List.mapM_cons]
  cases (outcome (step pair s)).1 with
  | error fault => rfl
  | ok output =>
    cases (pairs.mapM fun pair => (outcome (step pair s)).1) with
    | error fault => rfl
    | ok outputs =>
      cases stop with
      | none => exact congrArg Except.ok String.join_cons
      | some fault => rfl

section Steps

variable {σ ν : Type} {L : Language σ ν} {r : Session L} {cursor after : L.Cursor} {store : σ}

theorem forEach_next (step : ν × ν → Rendering L String) (fuel : Nat) (output : String) {pair : ν × ν}
    (h : L.next cursor r.store = .ok (some (pair, after)) store) :
    forEach step (fuel + 1) cursor output r =
      (step pair >>= fun more => forEach step fuel after (output ++ more)) { r with store } := by
  rw [forEach, bind_ok (lift_ok h)]

theorem forEach_end (step : ν × ν → Rendering L String) (fuel : Nat) (output : String)
    (h : L.next cursor r.store = .ok none store) :
    forEach step (fuel + 1) cursor output r = .ok output { r with store } := by
  rw [forEach, bind_ok (lift_ok h)]
  rfl

theorem forEach_fault (step : ν × ν → Rendering L String) (fuel : Nat) (output : String) {fault : Fault}
    (h : L.next cursor r.store = .error fault store) :
    forEach step (fuel + 1) cursor output r = .error fault { r with store } := by
  rw [forEach, bind_error (lift_error h)]

end Steps

theorem forEach_functional {cursor : Value.Cursor} {pairs : List (Value × Value)}
    (hstep : ∀ pair ∈ pairs, Functional cursor.drained s (step pair))
    (hr : Value.Remaining t.store cursor pairs stop) (hk : s.store.Keeps cursor.drained t.store)
    {fuel : Nat} (hfuel : pairs.length < fuel) (output : String) :
    (outcome (forEach (L := E.language) step fuel cursor output t)).1 =
      (eachAlone step s pairs stop).map (output ++ ·) := by
  -- each turn leaves another session and another cursor, so they vary with the pairs that are left
  induction pairs generalizing t cursor fuel output with
  | nil =>
    obtain ⟨fuel, rfl⟩ := Nat.exists_eq_succ_of_ne_zero (Nat.ne_zero_of_lt hfuel)
    obtain ⟨store, hnext⟩ := hr.last
    cases stop with
    | none =>
      have hrun := forEach_end (L := E.language) step fuel output hnext
      rw [hrun]
      exact congrArg Except.ok (String.append_empty).symm
    | some fault =>
      have hrun := forEach_fault (L := E.language) step fuel output hnext
      rw [hrun]
      rfl
  | cons pair pairs ih =>
    obtain ⟨fuel, rfl⟩ := Nat.exists_eq_succ_of_ne_zero (Nat.ne_zero_of_lt hfuel)
    obtain ⟨after, store, hnext, hrest, hdrained, hgiven⟩ := hr.next
    have hrun := forEach_next (L := E.language) step fuel output hnext
    rw [hrun, eachAlone_cons, bind_run]
    -- the step is the one from the beginning, since what the cursor did keeps the cells
    obtain ⟨hout, hkept⟩ := hstep pair List.mem_cons_self { t with store } (hk.trans hgiven)
    cases hs : step pair { t with store } with
    | error fault u =>
      rw [hs] at hout
      rw [← hout]
      rfl
    | ok more u =>
      rw [hs] at hout hkept
      rw [← hout]
      have hlater : ∀ other ∈ pairs, Functional after.drained s (step other) := by
        intro other ho
        rw [hdrained]
        exact hstep other (List.mem_cons_of_mem _ ho)
      have hk' : s.store.Keeps after.drained u.store := by
        rw [hdrained]
        exact (hk.trans hgiven).trans (hkept.but _)
      have htail := ih hlater (hrest.kept hkept) hk' (Nat.lt_of_succ_lt_succ hfuel) (output ++ more)
      dsimp only
      rw [htail]
      cases eachAlone step s pairs stop with
      | error fault => rfl
      | ok rest => exact congrArg Except.ok String.append_assoc

theorem evaluateField_str {σ ν : Type} {L : Language σ ν} (scope : Scope ν) (expr : String) :
    (evaluateField scope (.str expr) : Rendering L ν) = evaluate scope expr := rfl

theorem evaluate_ok {σ ν : Type} {L : Language σ ν} {expr : String} {c : L.Code} {scope : Scope ν} {v : ν}
    {s : Session L} (hc : L.compile expr = .ok c) (hv : L.value c scope s.store = .ok v s.store) :
    ∃ t, evaluate scope expr s = .ok v t ∧ t.store = s.store := by
  have hout := outcome_evaluate scope expr s
  simp only [hc, hv] at hout
  cases hr : evaluate scope expr s with
  | error fault u =>
    rw [hr] at hout
    cases (Prod.mk.inj hout).1
  | ok w u =>
    rw [hr] at hout
    obtain ⟨hw, hstore⟩ := Prod.mk.inj hout
    obtain rfl := Except.ok.inj hw
    exact ⟨u, rfl, hstore⟩

theorem runAll_single {σ ν : Type} {L : Language σ ν} (scope : Scope ν) (i : Instruction Json) :
    (runAll scope [i] : Rendering L String) = run scope i := by
  rw [runAll, runAll]
  simp only [pure_bind, String.append_empty, bind_pure]

theorem runAll_choice {σ ν : Type} {L : Language σ ν} (scope : Scope ν) (cond : String) (body : Body) :
    (runAll scope (Template.fields [.choose [.mk cond body] none]) : Rendering L String) = do
      let v ← evaluate scope cond
      if ← lift (L.truth v) then runAll scope (Template.fields body) else return "" := by
  show runAll scope [.choose [.mk (.str cond) (Template.fields body)] none] = _
  rw [runAll_single, run, runArms, evaluateField_str]
  simp only [bind_assoc]
  refine bind_congr fun v => bind_congr fun holds => ?_
  cases holds with
  | true => simp
  | false => simp [runArms, runOtherwise]

theorem run_loop {σ ν : Type} {L : Language σ ν} (scope : Scope ν) (iterable key value : String)
    (body : List (Instruction Json)) :
    (run scope (.loop (.str iterable) (some (.str key)) (.str value) body) : Rendering L String) =
      (do
        let v ← evaluate scope iterable
        let cursor ← lift (L.start v)
        let pending ← lift (L.pending cursor)
        forEach (fun pair => runAll ((scope.bind key pair.1).bind value pair.2) body)
          (pending + longestGrowth) cursor "") := by
  rw [run, evaluateField_str]
  rfl

theorem outcome_loop {scope : Scope Value} {iterable key value : String} {body : List (Instruction Json)}
    (hstep : ∀ pair, step pair = runAll ((scope.bind key pair.1).bind value pair.2) body)
    (hfun : FunctionalSteps (evaluate scope iterable) step s) :
    (outcome ((run scope (.loop (.str iterable) (some (.str key)) (.str value) body) :
      Rendering E.language String) s)).1 = loopOutput (evaluate scope iterable) step s := by
  obtain rfl : step = fun pair => runAll ((scope.bind key pair.1).bind value pair.2) body := funext hstep
  rw [run_loop, loopOutput]
  cases heval : (evaluate scope iterable : Rendering E.language Value) s with
  | error fault t =>
    rw [bind_error heval]
    rfl
  | ok v t =>
    rw [bind_ok heval]
    dsimp only
    rcases v.begins t.store with ⟨pairs, stop, cursor, hpairs, hstart, hr, hd⟩ | ⟨fault, hpairs, hfault⟩
    · have hsteps := hfun v t heval pairs stop _ hpairs
      rw [← hd] at hsteps
      have hlong : pairs.length < pairs.length + longestGrowth := Nat.lt_add_of_pos_right (by decide)
      have hloop := forEach_functional hsteps hr (.refl _ _) hlong ""
      rw [hpairs]
      dsimp only
      refine (congrArg (fun r => (outcome r).1) (bind_ok (lift_ok hstart))).trans ?_
      refine (congrArg (fun r => (outcome r).1) (bind_ok (lift_ok hr.pending))).trans (hloop.trans ?_)
      cases eachAlone (fun pair => runAll ((scope.bind key pair.1).bind value pair.2) body) t pairs stop with
      | error fault => rfl
      | ok output => exact congrArg Except.ok String.empty_append
    · rw [hpairs]
      rcases hfault with hstart | ⟨cursor, hstart, hpending⟩
      · exact congrArg (fun r => (outcome r).1) (bind_error (lift_error hstart))
      · refine (congrArg (fun r => (outcome r).1) (bind_ok (lift_ok hstart))).trans ?_
        exact congrArg (fun r => (outcome r).1) (bind_error (lift_error hpending))

theorem compile_v : Expression.compile "v" = .ok (.name "v") := by
  have hs : Expression.stripSigils ['v'] = ['v'] := by simp [Expression.stripSigils, Expression.startsName]
  show (Expression.parse (Expression.stripSigils ['v']) >>= _) = _
  rw [hs]
  rfl

theorem evaluate_v {scope : Scope Value} {x : Value} (hf : scope.find? "v" = some x)
    (hs : scope.spoiled = false) (s : Session Expression.language) :
    ∃ t, (evaluate scope "v" : Evaluation Value) s = .ok x t ∧ t.store = s.store := by
  refine evaluate_ok compile_v ?_
  show Expression.value (.name "v") scope s.store = _
  rw [Expression.value, hs, Expression.evaluate, Expression.resolve, hf]
  rfl

theorem outcome_echo_v {scope : Scope Value} {x : String} (hf : scope.find? "v" = some (.text x))
    (hs : scope.spoiled = false) (s : Session Expression.language) :
    outcome ((runAll scope (Template.fields [.echo "v"]) : Evaluation String) s) =
      (.ok (String.ofList (Text.escape x.toList)), s.store) := by
  obtain ⟨t, ht, hstore⟩ := evaluate_v hf hs s
  show outcome ((runAll scope [.echo (.str "v")] : Evaluation String) s) = _
  rw [runAll_single, run, evaluateField_str, bind_run, ht, ← hstore]
  rfl

end Render

namespace Template

open Text Tag Render

theorem output_of_parseText {σ ν : Type} {L : Language σ ν} {resolve : Resolver} {text : String} {body : Body}
    (h : parseText resolve text = .ok body) (scope : Scope ν) :
    (output resolve text scope : Rendering L String) = runAll scope (fields body) := by
  rw [output, h]
  rfl

/-- A template in a choice or in a loop is the body of the block. The choice gives what the template gives
alone when its condition is true, and otherwise nothing, with nothing of the template evaluated. The loop
gives what the template gives for each pair of the collection, or the first fault. -/
theorem template_in_block {E : Evaluator} {resolve : Resolver} {text : String} {body : Body}
    {cond iterable key value : List Char} {scope : Scope Value} {s : Session E.language}
    {inner : Value × Value → Scope Value} (ht : parseText resolve text = .ok body)
    (hcond : Complete cond) (hblank : trim cond ≠ []) (hfree : Free cond) (hiter : ArgumentText iterable)
    (hkey : IsName key) (hvalue : IsName value)
    (hE : E.language.LooksAt fun _ _ => True)
    (hinner : ∀ pair, scope.Layered (inner pair) (String.ofList key) (String.ofList value) pair)
    (hfun : FunctionalSteps (evaluate scope (String.ofList iterable))
      (fun pair => output resolve text (inner pair)) s) :
    let choice := String.ofList (inChoice cond text.toList)
    let loop := String.ofList (inLoop iterable key value text.toList)
    parseText resolve choice = .ok [.choose [.mk (String.ofList (trim cond)) body] none] ∧
    parseText resolve loop =
      .ok [.loop (String.ofList iterable) (some (String.ofList key)) (String.ofList value) body] ∧
    (∀ {σ ν : Type} (L : Language σ ν) (env : Scope ν), (output resolve choice env : Rendering L String) = do
      let v ← evaluate env (String.ofList (trim cond))
      if ← lift (L.truth v) then output resolve text env else return "") ∧
    (outcome (output resolve loop scope s)).1 =
      loopOutput (evaluate scope (String.ofList iterable)) (fun pair => output resolve text (inner pair)) s := by
  intro choice loop
  have hchoice := parseText_inChoice hcond hblank hfree ht
  have hloop := parseText_inLoop hiter hkey hvalue ht
  refine ⟨hchoice, hloop, ?_, ?_⟩
  · intro σ ν L env
    rw [output_of_parseText hchoice, output_of_parseText ht]
    exact runAll_choice env _ body
  · have hstep : ∀ pair, (output resolve text (inner pair) : Rendering E.language String) =
        runAll ((scope.bind (String.ofList key) pair.1).bind (String.ofList value) pair.2) (fields body) := by
      intro pair
      rw [output_of_parseText ht]
      refine runAll_alike hE _ ⟨fun name => ?_, (hinner pair).spoiled⟩
      rw [(hinner pair).find, Scope.find?_bind, Scope.find?_bind]
    rw [output_of_parseText hloop]
    show (outcome (runAll scope [.loop _ _ _ (fields body)] s)).1 = _
    rw [runAll_single]
    exact outcome_loop hstep hfun

theorem template_in_block_sample :
    let text := String.ofList (printAll [.echo "v"])
    let scope : Scope Value := Scope.ofList [("v", .tuple [.text "a", .text "<"])]
    let s := Session.fresh Expression.language Store.empty
    let inner := fun pair : Value × Value => (scope.bind "k" pair.1).bind "v" pair.2
    let choice := String.ofList (inChoice ['v'] text.toList)
    let loop := String.ofList (inLoop ['v'] ['k'] ['v'] text.toList)
    parseText none text = .ok [.echo "v"] ∧
    FunctionalSteps (evaluate scope "v") (fun pair => output none text (inner pair)) s ∧
    parseText none choice = .ok [.choose [.mk "v" [.echo "v"]] none] ∧
    parseText none loop = .ok [.loop "v" (some "k") "v" [.echo "v"]] ∧
    (outcome ((output none loop scope : Evaluation String) s)).1 = .ok "a&lt;" := by
  intro text scope s inner choice loop
  have hbody : NormalAll [.echo "v"] := by
    have hv : EchoText "v".toList := ⟨by decide, by decide, by decide, by decide, ⟨by decide⟩⟩
    simp [NormalAll, Normal, Apart, isLiteral]
    exact hv
  have ht : parseText none text = .ok [.echo "v"] := by
    rw [parseText, String.toList_ofList, expand_print none hbody]
    exact parse_print hbody
  have hiter : ArgumentText ['v'] := ⟨by decide, by decide, rfl, ⟨by decide⟩⟩
  have hcond : Complete ['v'] := rfl
  have hkey : IsName ['k'] := ⟨by decide, by simp⟩
  have hvalue : IsName ['v'] := ⟨by decide, by simp⟩
  have hinner (pair : Value × Value) : scope.Layered (inner pair) "k" "v" pair :=
    ⟨fun name => by rw [Scope.find?_bind, Scope.find?_bind], rfl⟩
  have hout {x : String} (key : Value) (t : Session Expression.language) :
      outcome ((output none text (inner (key, .text x)) : Evaluation String) t) =
        (.ok (String.ofList (escape x.toList)), t.store) := by
    rw [output_of_parseText ht]
    exact outcome_echo_v ((hinner (key, .text x)).find "v") rfl t
  have hv : scope.find? "v" = some (.tuple [.text "a", .text "<"]) := rfl
  obtain ⟨t, heval, -⟩ := evaluate_v hv rfl s
  have hfun : FunctionalSteps (evaluate scope "v") (fun pair => output none text (inner pair)) s := by
    intro v u hu pairs stop store hpairs pair hpair
    rw [heval] at hu
    cases hu
    cases hpairs
    rcases List.mem_cons.1 hpair with rfl | hpair
    · exact functional_of_outcome (hout _)
    · obtain rfl := List.mem_singleton.1 hpair
      exact functional_of_outcome (hout _)
  have hall : Expression.language.LooksAt fun _ _ => True :=
    looksAt_identifiers.mono fun _ _ _ => trivial
  obtain ⟨hchoice, hloop, -, hout'⟩ :=
    template_in_block ht hcond (by decide) ⟨by decide⟩ hiter hkey hvalue hall hinner hfun
  refine ⟨ht, hfun, hchoice, hloop, hout'.trans ?_⟩
  show loopOutput (evaluate scope "v") _ s = _
  rw [loopOutput, heval]
  show eachAlone _ t [(.int 0, .text "a"), (.int 1, .text "<")] none = _
  rw [eachAlone_cons, hout, eachAlone_cons, hout]
  rfl

end Template

end Stencil
