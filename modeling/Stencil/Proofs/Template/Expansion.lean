import Stencil.Proofs.Run
import Stencil.Proofs.Tag.Argument
import Stencil.Proofs.Template.Needed
/-!
# What an expansion is

The expansion of a text is told by its first include alone: what stands before it, the expansion of the
text that it names, and the expansion of what follows its argument. An expansion that is carried out is
the one that is told so, asks for names in the order in which they come, and fails at the first failure,
unless includes are nested too deep.
-/

namespace Stencil.Template

open Text Tag

structure FirstInclude (text : List Char) (p : Nat) : Prop where
  here : includeMark <+: text.drop p
  first : ∀ q < p, ¬includeMark <+: text.drop q

theorem includeMark_ne_nil : includeMark ≠ [] := List.cons_ne_nil _ _

theorem no_include_iff {s : List Char} :
    cut? includeMark s = none ↔ ∀ q, ¬includeMark <+: s.drop q := by
  rw [cut?_eq_none_iff includeMark_ne_nil]
  constructor
  · intro h q hq
    exact h (hq.isInfix.trans (List.drop_suffix q s).isInfix)
  · rintro h ⟨u, v, rfl⟩
    exact h u.length (by simp)

@[grind →] theorem FirstInclude.unique {text : List Char} {p q : Nat} (h : FirstInclude text p)
    (k : FirstInclude text q) : p = q := by
  rcases Nat.lt_trichotomy p q with hpq | hpq | hpq
  · exact absurd h.here (k.first p hpq)
  · exact hpq
  · exact absurd k.here (h.first q hpq)

@[grind →] theorem FirstInclude.exists_mark {text : List Char} {p : Nat} (h : FirstInclude text p) :
    ∃ q, includeMark <+: text.drop q := ⟨p, h.here⟩

theorem firstInclude_of_cut? {s before after : List Char} (h : cut? includeMark s = some (before, after)) :
    FirstInclude s before.length ∧ s = before ++ (includeMark ++ after) := by
  obtain ⟨hs, hfirst⟩ := (cut?_eq_some_iff includeMark_ne_nil).1 h
  refine ⟨⟨?_, hfirst⟩, hs⟩
  rw [hs, List.drop_left]
  exact List.prefix_append includeMark after

theorem argumentAt?_mark (before after : List Char) :
    argumentAt? (before ++ (includeMark ++ after)) (before.length + includeMark.length) =
      (argument? after).map fun (g, rest) =>
        (g, (before ++ (includeMark ++ after)).length - rest.length) := by
  rw [argumentAt?, ← List.append_assoc, List.drop_left' (by rw [List.length_append])]

theorem suffix_of_argument? {s g rest : List Char} (h : argument? s = some (g, rest)) : rest <:+ s := by
  obtain ⟨⟨raw, after⟩, hr, heq⟩ := Option.map_eq_some_iff.1 h
  obtain ⟨-, rfl⟩ := Prod.mk.inj heq
  exact ⟨raw ++ [')'], by simp [closeArgument?_split hr]⟩

theorem lineAt_mark (lead before after : List Char) :
    lineAt (lead ++ (before ++ (includeMark ++ after))) (includeMark ++ after) =
      lineFeeds lead + lineOf (before ++ (includeMark ++ after)) before.length := by
  have hpos : ¬((before.length : Int) < 0) := by omega
  simp only [lineAt, lineOf, if_neg hpos, Int.toNat_natCast, List.take_left, lineFeeds,
    List.count_append]
  omega

/-- The name that an argument asks for: quotes around it, and then white space, are removed. -/
def AskedBy (g : List Char) (n : String) : Prop :=
  ∃ unquoted, Stripped (fun c => c = '\'' ∨ c = '"') g unquoted ∧
    Stripped (fun c => isBlank c = true) unquoted n.toList

theorem askedBy_iff {g : List Char} {n : String} : AskedBy g n ↔ n = includeName g := by
  have hquote : (fun c => c = '\'' ∨ c = '"') = fun c => isQuote c = true := by
    funext c
    simp only [isQuote, Bool.or_eq_true, beq_iff_eq]
  simp only [AskedBy, hquote, stripped_iff, exists_eq_left]
  constructor
  · intro h
    rw [includeName, trim, ← h, String.ofList_toList]
  · rintro rfl
    exact String.toList_ofList

@[grind →] theorem AskedBy.unique {g : List Char} {n n' : String} (h : AskedBy g n) (k : AskedBy g n') : n = n' :=
  (askedBy_iff.1 h).trans (askedBy_iff.1 k).symm

theorem askedBy_includeName (g : List Char) : AskedBy g (includeName g) := askedBy_iff.2 rfl

/-- The expansion of a text that has some lines before it in its template, with the names that are asked
for, in order. -/
inductive Expanded (resolve : Resolver) :
    (lines : Nat) → List Char → List String → Except Fault (List Char) → Prop where
  | plain {lines : Nat} {text : List Char} : (∀ q, ¬includeMark <+: text.drop q) →
      Expanded resolve lines text [] (.ok text)
  | endless {lines p : Nat} {text : List Char} : FirstInclude text p →
      argumentAt? text (p + includeMark.length) = none →
      Expanded resolve lines text [] (.error (.tag .endlessInclude (lines + lineOf text p)))
  | unresolved {lines p e : Nat} {text g : List Char} {n : String} : FirstInclude text p →
      argumentAt? text (p + includeMark.length) = some (g, e) → AskedBy g n → resolve = none →
      Expanded resolve lines text [] (.error (.tag (.noResolver n) (lines + lineOf text p)))
  | missing {lines p e : Nat} {text g : List Char} {n : String} {r : String → Except Fault String}
      {fault : Fault} :
      FirstInclude text p → argumentAt? text (p + includeMark.length) = some (g, e) → AskedBy g n →
      resolve = some r → r n = .error fault →
      Expanded resolve lines text [n] (.error fault)
  | broken {lines p e : Nat} {text g : List Char} {n : String} {r : String → Except Fault String}
      {inner : String} {asked : List String} {fault : Fault} :
      FirstInclude text p → argumentAt? text (p + includeMark.length) = some (g, e) → AskedBy g n →
      resolve = some r → r n = .ok inner →
      Expanded resolve 0 inner.toList asked (.error fault) →
      Expanded resolve lines text (n :: asked) (.error fault)
  | carried {lines p e : Nat} {text g x : List Char} {n : String} {r : String → Except Fault String}
      {inner : String} {asked more : List String} {result : Except Fault (List Char)} :
      FirstInclude text p → argumentAt? text (p + includeMark.length) = some (g, e) → AskedBy g n →
      resolve = some r → r n = .ok inner →
      Expanded resolve 0 inner.toList asked (.ok x) →
      Expanded resolve (lines + lineFeeds (text.take e)) (text.drop e) more result →
      Expanded resolve lines text (n :: (asked ++ more)) (result.map fun y => text.take p ++ x ++ y)

theorem Expanded.unique {resolve : Resolver} {lines : Nat} {text : List Char} {asked asked' : List String}
    {result result' : Except Fault (List Char)} (h : Expanded resolve lines text asked result)
    (k : Expanded resolve lines text asked' result') : asked = asked' ∧ result = result' := by
  -- of one text there is one first include, which has one argument and asks for one name
  induction h generalizing asked' result' with
  | plain hno => cases k <;> grind
  | endless hp ha => cases k <;> grind
  | unresolved hp ha hg hn => cases k <;> grind
  | missing hp ha hg hr hn => cases k <;> grind
  | broken hp ha hg hr hn _ ih => cases k <;> grind
  | carried hp ha hg hr hn _ _ ih jh => cases k <;> grind

/-- The names that the includes of a text ask for, those inside an argument left out. -/
inductive AsksFor : List Char → String → Prop where
  | first {text g : List Char} {p e : Nat} {n : String} : FirstInclude text p →
      argumentAt? text (p + includeMark.length) = some (g, e) → AskedBy g n → AsksFor text n
  | later {text g : List Char} {p e : Nat} {n : String} : FirstInclude text p →
      argumentAt? text (p + includeMark.length) = some (g, e) → AsksFor (text.drop e) n → AsksFor text n

/-- Texts that include one another, from the includes of a text on, by their names. -/
inductive Chain (r : String → Except Fault String) : List Char → List String → Prop where
  | nil {text : List Char} : Chain r text []
  | cons {text : List Char} {name inner : String} {names : List String} :
      AsksFor text name → r name = .ok inner → Chain r inner.toList names →
      Chain r text (name :: names)

theorem Chain.mono {r : String → Except Fault String} {s t : List Char} {names : List String}
    (h : Chain r t names) (hasks : ∀ n, AsksFor t n → AsksFor s n) : Chain r s names := by
  cases h with
  | nil => exact .nil
  | cons hname hr hchain => exact .cons (hasks _ hname) hr hchain

/-- The answer to a name, with the name put down after those that were asked for before. -/
def asking (r : String → Except Fault String) (name : String) : EStateM Fault (List String) String := do
  modify (· ++ [name])
  MonadExcept.ofExcept (r name)

def noted {α : Type} (log : List String) : Except Fault α → EStateM.Result Fault (List String) α
  | .ok a => .ok a log
  | .error fault => .error fault log

/-- A computation has a result, and the same computation that puts down names has it too and asks for
these names. -/
structure Told {α : Type} (x : Except Fault α) (y : EStateM Fault (List String) α) (asked : List String)
    (result : Except Fault α) : Prop where
  gives : x = result
  asks : ∀ log, y log = noted (log ++ asked) result

section

variable {α β : Type} {x : Except Fault α} {y : EStateM Fault (List String) α}
  {f : α → Except Fault β} {g : α → EStateM Fault (List String) β} {asked more : List String}

theorem told_pure (a : α) : Told (pure a) (pure a) [] (.ok a) := by
  constructor
  · rfl
  · intro log
    rw [List.append_nil]
    rfl

theorem told_throw (fault : Fault) : Told (throw fault : Except Fault α) (throw fault) [] (.error fault) := by
  constructor
  · rfl
  · intro log
    rw [List.append_nil]
    rfl

theorem told_asking (r : String → Except Fault String) (name : String) :
    Told (r name) (asking r name) [name] (r name) := by
  constructor
  · rfl
  · intro log
    unfold asking
    rw [bind_run, modify_run]
    cases r name <;> rfl

theorem Told.bind {a : α} {result : Except Fault β} (h : Told x y asked (.ok a))
    (k : Told (f a) (g a) more result) : Told (x >>= f) (y >>= g) (asked ++ more) result := by
  constructor
  · rw [h.gives]
    exact k.gives
  · intro log
    rw [bind_run, h.asks, ← List.append_assoc]
    exact k.asks (log ++ asked)

theorem Told.stop {fault : Fault} (h : Told x y asked (.error fault)) :
    Told (x >>= f) (y >>= g) asked (.error fault) := by
  constructor
  · rw [h.gives]
    rfl
  · intro log
    rw [bind_run, h.asks]
    rfl

theorem Told.map {result : Except Fault α} (h : Told x y asked result) (f : α → β) :
    Told (x >>= fun a => pure (f a)) (y >>= fun a => pure (f a)) asked (result.map f) := by
  cases result with
  | error fault => exact h.stop
  | ok a =>
    have := h.bind (f := fun a => pure (f a)) (g := fun a => pure (f a)) (told_pure (f a))
    rwa [List.append_nil] at this

end

/-- An expansion that is carried out as it is told, or a chain of includes that is too long for that. -/
def CarriedOut (r : String → Except Fault String) (lines : Nat) (text : List Char) (length : Nat)
    (x : Except Fault (List Char)) (y : EStateM Fault (List String) (List Char)) : Prop :=
  (∃ asked result, Told x y asked result ∧ Expanded (some r) lines text asked result) ∨
    ∃ asked names, Told x y asked (.error .tooDeep) ∧ Chain r text names ∧ names.length = length

def fetching {m : Type → Type} [Monad m] [MonadExceptOf Fault m] (r : String → m String) (depth : Nat)
    (name : String) : m (List Char) := do
  let text ← r name
  expandWithin (some r) depth text.toList

theorem told_fetching_missing {r : String → Except Fault String} {name : String} {fault : Fault}
    (h : r name = .error fault) (depth : Nat) :
    Told (fetching r depth name) (fetching (asking r) depth name) [name] (.error fault) := by
  have hname := told_asking r name
  rw [h] at hname
  unfold fetching
  rw [h]
  exact hname.stop

theorem told_fetching {r : String → Except Fault String} {name inner : String} {depth : Nat}
    {asked : List String} {result : Except Fault (List Char)} (h : r name = .ok inner)
    (k : Told (expandWithin (some r) depth inner.toList) (expandWithin (some (asking r)) depth inner.toList)
      asked result) :
    Told (fetching r depth name) (fetching (asking r) depth name) (name :: asked) result := by
  have hname := told_asking r name
  rw [h] at hname
  unfold fetching
  rw [h]
  exact hname.bind k

theorem Expanded.carry {r : String → Except Fault String} {lead before front rest g x : List Char}
    {inner : String} {asked more : List String} {result : Except Fault (List Char)}
    (hp : FirstInclude (front ++ rest) before.length) (hb : before <+: front ++ rest)
    (hat : argumentAt? (front ++ rest) (before.length + includeMark.length) = some (g, front.length))
    (hr : r (includeName g) = .ok inner) (hx : Expanded (some r) 0 inner.toList asked (.ok x))
    (hmore : Expanded (some r) (lineFeeds (lead ++ front)) rest more result) :
    Expanded (some r) (lineFeeds lead) (front ++ rest) (includeName g :: (asked ++ more))
      (result.map fun y => before ++ x ++ y) := by
  have hlines : lineFeeds (lead ++ front) =
      lineFeeds lead + lineFeeds ((front ++ rest).take front.length) := by
    rw [List.take_left, lineFeeds, List.count_append]
    rfl
  have hdrop : (front ++ rest).drop front.length = rest := List.drop_left
  have hmore : Expanded (some r) (lineFeeds lead + lineFeeds ((front ++ rest).take front.length))
      ((front ++ rest).drop front.length) more result := by
    rw [← hlines, hdrop]
    exact hmore
  have h := Expanded.carried hp hat (askedBy_includeName g) rfl hr hx hmore
  rwa [← List.prefix_iff_eq_take.1 hb] at h

theorem carriedOut_from {r : String → Except Fault String} {depth : Nat}
    (hinner : ∀ text, CarriedOut r 0 text depth (expandWithin (some r) depth text)
      (expandWithin (some (asking r)) depth text)) (lead s : List Char) :
    CarriedOut r (lineFeeds lead) s (depth + 1) (expandFrom (some (fetching r depth)) (lead ++ s) s)
      (expandFrom (some (fetching (asking r) depth)) (lead ++ s) s) := by
  fun_induction includeNames s generalizing lead with
  | case1 s hc =>
    rw [expandFrom_plain hc, expandFrom_plain hc]
    exact .inl ⟨[], .ok s, told_pure s, .plain (no_include_iff.1 hc)⟩
  | case2 s before after hc ha =>
    obtain ⟨hp, rfl⟩ := firstInclude_of_cut? hc
    rw [expandFrom_endless hc ha, expandFrom_endless hc ha, lineAt_mark]
    refine .inl ⟨[], _, told_throw _, .endless hp ?_⟩
    rw [argumentAt?_mark, ha]
    rfl
  | case3 s before after hc argument rest ha _ _ ih =>
    rw [expandFrom_include hc ha, expandFrom_include hc ha]
    obtain ⟨hp, hs⟩ := firstInclude_of_cut? hc
    obtain ⟨raw, hraw⟩ := suffix_of_argument? ha
    obtain ⟨front, hfront⟩ : ∃ front, front ++ rest = s := ⟨before ++ (includeMark ++ raw), by
      rw [hs, ← hraw, List.append_assoc, List.append_assoc]⟩
    have hat : argumentAt? s (before.length + includeMark.length) = some (argument, front.length) := by
      have hlen : s.length - rest.length = front.length := by rw [← hfront, List.length_append]; omega
      rw [← hlen, hs, argumentAt?_mark, ha]
      rfl
    cases hr : r (includeName argument) with
    | error fault =>
      exact .inl ⟨_, _, (told_fetching_missing hr depth).stop, .missing hp hat (askedBy_includeName _) rfl hr⟩
    | ok inner =>
      rcases hinner inner.toList with ⟨asked, result, htold, hexp⟩ | ⟨asked, names, htold, hchain, hlen⟩
      · cases result with
        | error fault => exact .inl ⟨_, _, (told_fetching hr htold).stop,
            .broken hp hat (askedBy_includeName _) rfl hr hexp⟩
        | ok x =>
          -- what follows is read with the lines before it counted in the template
          have ih := ih (lead ++ front)
          rw [List.append_assoc, hfront] at ih
          rcases ih with ⟨more, result, hmore, hrexp⟩ | ⟨more, names, hmore, hchain, hlen⟩
          · refine .inl ⟨_, _, (told_fetching hr htold).bind (hmore.map fun y => before ++ x ++ y), ?_⟩
            subst hfront
            exact Expanded.carry hp ⟨_, hs.symm⟩ hat hr hexp hrexp
          · refine .inr ⟨_, names, (told_fetching hr htold).bind hmore.stop, ?_, hlen⟩
            have hdrop : s.drop front.length = rest := by rw [← hfront, List.drop_left]
            exact hchain.mono fun n hn => .later hp hat (hdrop.symm ▸ hn)
      · refine .inr ⟨_, _, (told_fetching hr htold).stop, .cons ?_ hr hchain, ?_⟩
        · exact .first hp hat (askedBy_includeName _)
        · rw [List.length_cons, hlen]

theorem carriedOut_within (r : String → Except Fault String) (depth : Nat) (text : List Char) :
    CarriedOut r 0 text depth (expandWithin (some r) depth text)
      (expandWithin (some (asking r)) depth text) := by
  induction depth generalizing text with
  | zero => exact .inr ⟨[], [], told_throw _, .nil, rfl⟩
  | succ depth ih => exact carriedOut_from ih [] text

theorem told_without (text : List Char) :
    ∃ result, Told (expand none text) (expand none text) [] result ∧ Expanded none 0 text [] result := by
  change ∃ result, Told (expandFrom none text text) (expandFrom none text text) [] result ∧ _
  cases hc : cut? includeMark text with
  | none =>
    rw [expandFrom_plain hc, expandFrom_plain hc]
    exact ⟨_, told_pure text, .plain (no_include_iff.1 hc)⟩
  | some parts =>
    obtain ⟨before, after⟩ := parts
    obtain ⟨hp, hs⟩ := firstInclude_of_cut? hc
    have hat := argumentAt?_mark before after
    have hline := lineAt_mark [] before after
    rw [← hs] at hat hline
    cases ha : argument? after with
    | none =>
      rw [expandFrom_endless hc ha, expandFrom_endless hc ha]
      rw [ha] at hat
      exact ⟨_, told_throw _, hline ▸ .endless hp hat⟩
    | some found =>
      obtain ⟨argument, rest⟩ := found
      rw [expandFrom_unresolved hc ha, expandFrom_unresolved hc ha]
      rw [ha] at hat
      exact ⟨_, told_throw _, hline ▸ .unresolved hp hat (askedBy_includeName _) rfl⟩

end Stencil.Template
