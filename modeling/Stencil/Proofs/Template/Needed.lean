import Stencil.Proofs.Template.Inclusion
import Stencil.Template.Compile
/-!
# What a template is made of

The texts that a template is made of are its own and those of its includes, at any depth. Other texts do
not matter: the tree is the same whatever they are.
-/

namespace Stencil.Template

open Text Tag

def includeNames (s : List Char) : List String :=
  match h : cut? includeMark s with
  | none => []
  | some (_, after) =>
    match ha : argument? after with
    | none => []
    | some (argument, rest) =>
      have := length_of_cut? h
      have := length_of_argument? ha
      includeName argument :: includeNames rest
termination_by s.length

/-- The names whose texts the template of a name is made of. -/
inductive Needed (resolve : String → Except Fault String) (name : String) : String → Prop where
  | itself : Needed resolve name name
  | included {m k text : String} : Needed resolve name m → resolve m = .ok text →
      k ∈ includeNames text.toList → Needed resolve name k

section

variable {m : Type → Type} [Monad m] [MonadExceptOf Fault m]

theorem expandFrom_congr {fetch fetch' : String → m (List Char)} {s : List Char}
    (h : ∀ n ∈ includeNames s, fetch n = fetch' n) (template : List Char) :
    expandFrom (some fetch) template s = expandFrom (some fetch') template s := by
  fun_induction includeNames s with
  | case1 s hc => rw [expandFrom_plain hc, expandFrom_plain hc]
  | case2 s before after hc ha => rw [expandFrom_endless hc ha, expandFrom_endless hc ha]
  | case3 s before after hc argument rest ha _ _ ih =>
    have hname : fetch (includeName argument) = fetch' (includeName argument) := h _ List.mem_cons_self
    have hrest := ih fun n hn => h n (List.mem_cons_of_mem _ hn)
    rw [expandFrom_include hc ha, expandFrom_include hc ha, hname, hrest]

end

variable {resolve resolve' : String → Except Fault String}

theorem expandWithin_congr {P : String → Prop} (hagree : ∀ n, P n → resolve n = resolve' n)
    (hclosed : ∀ n text, P n → resolve n = .ok text → ∀ k ∈ includeNames text.toList, P k)
    (depth : Nat) {s : List Char} (hs : ∀ n ∈ includeNames s, P n) :
    expandWithin (some resolve) depth s = expandWithin (some resolve') depth s := by
  induction depth generalizing s with
  | zero => rfl
  | succ depth ih =>
    refine expandFrom_congr (fun n hn => ?_) s
    -- a name that is asked for stands for the same text, whose own includes stay within the set
    have hn := hs n hn
    dsimp only
    rw [← hagree n hn]
    cases ht : resolve n with
    | error fault => rfl
    | ok text => exact ih (hclosed n text hn ht)

theorem parseText_congr {name text : String} (ht : resolve name = .ok text)
    (hagree : ∀ n, Needed resolve name n → resolve n = resolve' n) :
    parseText (some resolve) text = parseText (some resolve') text := by
  have hexpand : expand (some resolve) text.toList = expand (some resolve') text.toList :=
    expandWithin_congr hagree (fun n t hn h k hk => hn.included h hk) deepestNesting
      fun n hn => Needed.itself.included ht hn
  rw [parseText, parseText, hexpand]

end Stencil.Template
