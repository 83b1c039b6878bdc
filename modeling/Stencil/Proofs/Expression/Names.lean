import Stencil.Expression.Language
/-!
# The names in an expression

An expression looks at a scope through the names in it. Scopes under which these have the same values give
the expression the same value or the same fault, and leave the same store.
-/

namespace Stencil

namespace Scope

variable {ν : Type} {P Q : String → Prop} {s t : Scope ν}

/-- Scopes under which each name of a set has the same value, or is bound in neither. -/
structure AgreeOn (P : String → Prop) (s t : Scope ν) : Prop where
  find : ∀ name, P name → s.find? name = t.find? name
  spoiled : s.spoiled = t.spoiled

theorem AgreeOn.mono (h : s.AgreeOn P t) (hPQ : ∀ name, Q name → P name) : s.AgreeOn Q t :=
  ⟨fun name hname => h.find name (hPQ name hname), h.spoiled⟩

theorem AgreeOn.bind {name : String} (h : s.AgreeOn (fun other => other ≠ name ∧ P other) t) (v : ν) :
    (s.bind name v).AgreeOn P (t.bind name v) := by
  refine ⟨fun other hother => ?_, h.spoiled⟩
  rw [find?_bind, find?_bind]
  split
  · rfl
  · next hne => exact h.find other ⟨hne, hother⟩

theorem AgreeOn.spoil (h : s.AgreeOn P t) : s.spoil.AgreeOn P t.spoil := ⟨h.find, rfl⟩

end Scope

namespace Expression

mutual

def NamesIn (P : String → Prop) : Expr → Prop
  | .literal _ => True
  | .name n => P n
  | .list items | .tuple items | .concat items => AllNamesIn P items
  | .dict entries => EntriesIn P entries
  | .member e _ | .signed _ e | .negate e => NamesIn P e
  | .item e key => NamesIn P e ∧ NamesIn P key
  | .slice e start stop step =>
    NamesIn P e ∧ OptionIn P start ∧ OptionIn P stop ∧ OptionIn P step
  | .call e args | .filter e _ args | .test e _ args => NamesIn P e ∧ ArgsIn P args
  | .binary _ left right | .both left right | .either left right => NamesIn P left ∧ NamesIn P right
  | .compare e links => NamesIn P e ∧ LinksIn P links
  | .choose cond yes no _ => NamesIn P cond ∧ NamesIn P yes ∧ OptionIn P no

def OptionIn (P : String → Prop) : Option Expr → Prop
  | some e => NamesIn P e
  | none => True

def AllNamesIn (P : String → Prop) : List Expr → Prop
  | [] => True
  | e :: rest => NamesIn P e ∧ AllNamesIn P rest

def EntriesIn (P : String → Prop) : List Entry → Prop
  | [] => True
  | .mk key value :: rest => NamesIn P key ∧ NamesIn P value ∧ EntriesIn P rest

/-- All names in arguments are of a set. The name that an argument is given by is none of them. -/
def ArgsIn (P : String → Prop) : List Arg → Prop
  | [] => True
  | .plain e :: rest | .named _ e :: rest | .spread e :: rest | .spreadNamed e :: rest =>
    NamesIn P e ∧ ArgsIn P rest

def LinksIn (P : String → Prop) : List Link → Prop
  | [] => True
  | .mk _ e :: rest => NamesIn P e ∧ LinksIn P rest

end

variable {P : String → Prop} {s t : Scope Value}

mutual

theorem evaluate_agree (h : s.AgreeOn P t) : ∀ e : Expr, NamesIn P e → evaluate s e = evaluate t e
  | .literal _, _ => by rw [evaluate, evaluate]
  | .name n, hn => by rw [evaluate, evaluate, resolve, resolve, h.find n hn]
  | .list items, hn => by rw [evaluate, evaluate, evaluateAll_agree h items hn]
  | .tuple items, hn => by rw [evaluate, evaluate, evaluateAll_agree h items hn]
  | .dict entries, hn => by rw [evaluate, evaluate, evaluateEntries_agree h entries hn]
  | .member e _, hn => by rw [evaluate, evaluate, evaluate_agree h e hn]
  | .item e key, hn => by
    rw [evaluate, evaluate, evaluate_agree h e hn.1, evaluate_agree h key hn.2]
  | .slice e start stop step, hn => by
    rw [evaluate, evaluate, evaluate_agree h e hn.1, evaluateOption_agree h start hn.2.1,
      evaluateOption_agree h stop hn.2.2.1, evaluateOption_agree h step hn.2.2.2]
  | .call e args, hn => by
    rw [evaluate, evaluate, evaluate_agree h e hn.1]
    simp only [evaluateArgs_agree h args hn.2]
  | .filter e _ args, hn => by
    rw [evaluate, evaluate, evaluate_agree h e hn.1]
    simp only [evaluateArgs_agree h args hn.2]
  | .test e _ args, hn => by
    rw [evaluate, evaluate, evaluate_agree h e hn.1]
    simp only [evaluateArgs_agree h args hn.2]
  | .signed _ e, hn => by rw [evaluate, evaluate, evaluate_agree h e hn]
  | .binary _ left right, hn => by
    rw [evaluate, evaluate, evaluate_agree h left hn.1, evaluate_agree h right hn.2]
  | .concat items, hn => by rw [evaluate, evaluate, evaluateAll_agree h items hn]
  | .compare e links, hn => by
    rw [evaluate, evaluate, evaluate_agree h e hn.1]
    simp only [compareChain_agree h links hn.2]
  | .both left right, hn => by
    rw [evaluate, evaluate, evaluate_agree h left hn.1, evaluate_agree h right hn.2]
  | .either left right, hn => by
    rw [evaluate, evaluate, evaluate_agree h left hn.1, evaluate_agree h right hn.2]
  | .negate e, hn => by rw [evaluate, evaluate, evaluate_agree h e hn]
  | .choose cond yes none line, hn => by
    rw [evaluate, evaluate, evaluate_agree h cond hn.1, evaluate_agree h yes hn.2.1]
  | .choose cond yes (some no) line, hn => by
    have hno := evaluate_agree h no hn.2.2
    rw [evaluate, evaluate, evaluate_agree h cond hn.1, evaluate_agree h yes hn.2.1]
    simp only [hno]

theorem evaluateOption_agree (h : s.AgreeOn P t) :
    ∀ e : Option Expr, OptionIn P e → evaluateOption s e = evaluateOption t e
  | none, _ => by rw [evaluateOption, evaluateOption]
  | some e, hn => by rw [evaluateOption, evaluateOption, evaluate_agree h e hn]

theorem evaluateAll_agree (h : s.AgreeOn P t) :
    ∀ items : List Expr, AllNamesIn P items → evaluateAll s items = evaluateAll t items
  | [], _ => by rw [evaluateAll, evaluateAll]
  | e :: rest, hn => by
    rw [evaluateAll, evaluateAll, evaluate_agree h e hn.1, evaluateAll_agree h rest hn.2]

theorem evaluateEntries_agree (h : s.AgreeOn P t) :
    ∀ entries : List Entry, EntriesIn P entries → evaluateEntries s entries = evaluateEntries t entries
  | [], _ => by rw [evaluateEntries, evaluateEntries]
  | .mk key value :: rest, hn => by
    rw [evaluateEntries, evaluateEntries, evaluate_agree h key hn.1, evaluate_agree h value hn.2.1,
      evaluateEntries_agree h rest hn.2.2]

theorem evaluateArgs_agree (h : s.AgreeOn P t) :
    ∀ args : List Arg, ArgsIn P args → ∀ a : Value.Arguments, evaluateArgs s a args = evaluateArgs t a args
  | [], _, a => by rw [evaluateArgs, evaluateArgs]
  | .plain e :: rest, hn, a => by
    rw [evaluateArgs, evaluateArgs, evaluate_agree h e hn.1]
    simp only [evaluateArgs_agree h rest hn.2]
  | .named _ e :: rest, hn, a => by
    rw [evaluateArgs, evaluateArgs, evaluate_agree h e hn.1]
    simp only [evaluateArgs_agree h rest hn.2]
  | .spread e :: rest, hn, a => by
    rw [evaluateArgs, evaluateArgs, evaluate_agree h e hn.1]
    simp only [evaluateArgs_agree h rest hn.2]
  | .spreadNamed e :: rest, hn, a => by
    rw [evaluateArgs, evaluateArgs, evaluate_agree h e hn.1]
    simp only [evaluateArgs_agree h rest hn.2]

theorem compareChain_agree (h : s.AgreeOn P t) :
    ∀ links : List Link, LinksIn P links → ∀ a : Value, compareChain s a links = compareChain t a links
  | [], _, a => by rw [compareChain, compareChain]
  | .mk _ e :: rest, hn, a => by
    rw [compareChain, compareChain, evaluate_agree h e hn.1]
    simp only [compareChain_agree h rest hn.2]

end

theorem value_agree (h : s.AgreeOn P t) {e : Expr} (hn : NamesIn P e) : value e s = value e t := by
  rw [value, value, h.spoiled, evaluate_agree h e hn]

end Expression

end Stencil
