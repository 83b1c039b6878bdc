import Stencil.Proofs.Tag.Argument
import Stencil.Proofs.Tag.Scan
/-!
# Texts that go on

What a scan finds in a text it finds there too when the text goes on with a tag of words alone. Such a tag
completes no echo, no comment and no word, so an opening that is left open stays a plain text.
-/

namespace Stencil.Tag

open Text

/-- A text that begins with an at sign and has no closing brace. -/
structure Wordy (w : List Char) : Prop where
  begins : ∃ v, w = '@' :: v
  unbraced : '\x7d' ∉ w

variable {s w u : List Char}

theorem after?_append_tail {v : List Char} (hu : '@' ∉ u) :
    after? u (s ++ '@' :: v) = (after? u s).map (· ++ '@' :: v) := by
  fun_induction after? u s with
  | case1 s => simp [after?]
  | case2 a u =>
    have ha : a ≠ '@' := fun h => hu (h ▸ List.mem_cons_self)
    simp [after?, ha]
  | case3 u a s ih =>
    have hu : '@' ∉ u := fun h => hu (List.mem_cons_of_mem _ h)
    simp [after?, ih hu]
  | case4 a u c s h => simp [after?, h]

theorem after?_wordy (h : Wordy w) (hs : s ≠ []) {c : Char} (hu : '@' ∉ u) :
    after? (c :: u) (s ++ w) = (after? (c :: u) s).map (· ++ w) := by
  obtain ⟨v, rfl⟩ := h.begins
  cases s with
  | nil => exact absurd rfl hs
  | cons d s =>
    rw [List.cons_append, after?, after?]
    split
    · exact after?_append_tail hu
    · rfl

theorem after?_eq_none_of_last {x : Char} (hx : x ∉ w) : after? (u ++ [x]) w = none := by
  rw [Option.eq_none_iff_forall_ne_some]
  intro rest h
  rw [after?_eq_some_iff] at h
  exact hx (by simp [h])

theorem after?_append_last {x : Char} (hx : x ∉ w) :
    after? (u ++ [x]) (s ++ w) = (after? (u ++ [x]) s).map (· ++ w) := by
  induction u generalizing s with
  | nil =>
    cases s with
    | nil => exact after?_eq_none_of_last (u := []) hx
    | cons c s =>
      simp only [List.nil_append, List.cons_append, after?]
      split <;> rfl
  | cons a u ih =>
    cases s with
    | nil => exact after?_eq_none_of_last (u := a :: u) hx
    | cons c s =>
      simp only [List.cons_append, after?]
      split
      · exact ih
      · rfl

theorem cut?_append_last {x : Char} (hx : x ∉ w) :
    cut? (u ++ [x]) (s ++ w) = (cut? (u ++ [x]) s).map fun (before, after) => (before, after ++ w) := by
  induction s with
  | nil =>
    have hnil : cut? (u ++ [x]) [] = none := by simp [cut?]
    rw [hnil, List.nil_append, Option.map_none]
    induction w with
    | nil => exact hnil
    | cons c w ih =>
      rw [cut?, after?_eq_none_of_last hx, ih fun h => hx (List.mem_cons_of_mem _ h)]
      rfl
  | cons c s ih =>
    have hafter := after?_append_last (s := c :: s) (u := u) hx
    rw [List.cons_append] at hafter ⊢
    rw [cut?, cut?, hafter, ih]
    cases after? (u ++ [x]) (c :: s) with
    | some rest => rfl
    | none => cases cut? (u ++ [x]) s <;> rfl

theorem takeWhile_wordy (h : Wordy w) {p : Char → Bool} (hp : p '@' = false) :
    (s ++ w).takeWhile p = s.takeWhile p := by
  obtain ⟨v, rfl⟩ := h.begins
  induction s with
  | nil => simp [hp]
  | cons c s ih =>
    rw [List.cons_append, List.takeWhile_cons, List.takeWhile_cons, ih]

theorem dropWhile_wordy (h : Wordy w) {p : Char → Bool} (hp : p '@' = false) :
    (s ++ w).dropWhile p = s.dropWhile p ++ w := by
  obtain ⟨v, rfl⟩ := h.begins
  induction s with
  | nil => simp [hp]
  | cons c s ih =>
    rw [List.cons_append, List.dropWhile_cons, List.dropWhile_cons, ih]
    split <;> rfl

theorem afterEnd_wordy (h : Wordy w) : after? echoEnd (s ++ w) = (after? echoEnd s).map (· ++ w) :=
  after?_append_last (u := ['\x7d']) h.unbraced

theorem echoBody?_unbraced (h : '\x7d' ∉ s) : echoBody? s = none := by
  induction s with
  | nil => rfl
  | cons c s ih =>
    have hs : '\x7d' ∉ s := fun hm => h (List.mem_cons_of_mem _ hm)
    have hend : after? echoEnd (dropBlanks s) = none :=
      after?_eq_none_of_last (u := ['\x7d']) fun hm => hs ((List.dropWhile_sublist isBlank).mem hm)
    rw [echoBody?, hend, ih hs]
    split <;> rfl

theorem echoBody?_wordy (h : Wordy w) :
    echoBody? (s ++ w) = (echoBody? s).map fun (body, after) => (body, after ++ w) := by
  induction s with
  | nil => exact echoBody?_unbraced h.unbraced
  | cons c s ih =>
    have hdrop : dropBlanks (s ++ w) = dropBlanks s ++ w := dropWhile_wordy h (by decide)
    rw [List.cons_append, echoBody?, echoBody?, hdrop, afterEnd_wordy h, ih]
    split
    · rfl
    · cases after? echoEnd (dropBlanks s) with
      | some after => rfl
      | none => cases echoBody? s <;> rfl

theorem echoAfter?_wordy (h : Wordy w) :
    echoAfter? (s ++ w) = (echoAfter? s).map fun (body, after) => (body, after ++ w) := by
  have hdrop : dropBlanks (s ++ w) = dropBlanks s ++ w := dropWhile_wordy h (by decide)
  rw [echoAfter?, echoAfter?, hdrop, echoBody?_wordy h, afterEnd_wordy h, takeWhile_wordy h (by decide)]
  cases echoBody? (dropBlanks s) with
  | some found => rfl
  | none =>
    cases after? echoEnd (dropBlanks s) with
    | none => rfl
    | some after => cases lastInline? (s.takeWhile isBlank) <;> rfl

/-- What is found, with a text after all that follows it. -/
def Found.before (f : Found) (w : List Char) : Found := { f with rest := f.rest ++ w }

theorem wholeWord?_wordy (h : Wordy w) (hs : s ≠ []) {c : Char} (hu : '@' ∉ u) :
    wholeWord? (c :: u) (s ++ w) = (wholeWord? (c :: u) s).map (· ++ w) := by
  rw [wholeWord?, wholeWord?, after?_wordy h hs hu]
  obtain ⟨v, rfl⟩ := h.begins
  cases after? (c :: u) s with
  | none => rfl
  | some rest =>
    cases rest with
    | nil => rfl
    | cons d rest =>
      by_cases hd : isWord d = true <;> simp [Option.filter, hd]

theorem match?_wordy (h : Wordy w) (hs : s ≠ []) (r : Rule) :
    r.match? (s ++ w) = (r.match? s).map (·.before w) := by
  -- each rule begins with a word that has its only at sign in front, if it has one
  have lead {g : List Char → Found} (hg : ∀ t, g (t ++ w) = (g t).before w) {c : Char} {u : List Char}
      (hu : '@' ∉ u) :
      (after? (c :: u) (s ++ w)).map g = ((after? (c :: u) s).map g).map (·.before w) := by
    rw [after?_wordy h hs hu]
    cases after? (c :: u) s with
    | none => rfl
    | some rest => exact congrArg some (hg rest)
  have whole {g : List Char → Found} (hg : ∀ t, g (t ++ w) = (g t).before w) {c : Char} {u : List Char}
      (hu : '@' ∉ u) :
      (wholeWord? (c :: u) (s ++ w)).map g = ((wholeWord? (c :: u) s).map g).map (·.before w) := by
    rw [wholeWord?_wordy h hs hu]
    cases wholeWord? (c :: u) s with
    | none => rfl
    | some rest => exact congrArg some (hg rest)
  cases r with
  | inclusion | choice | further | loop => exact lead (fun _ => rfl) (by decide)
  | otherwise =>
    refine lead (fun t => ?_) (by decide)
    rw [takeWhile_wordy h (by decide), dropWhile_wordy h (by decide)]
    rfl
  | endChoice | endLoop => exact whole (fun _ => rfl) (by decide)
  | echo =>
    simp only [Rule.match?, Option.bind_eq_bind]
    rw [after?_wordy h hs (by decide)]
    cases after? ['\x7b', '\x7b'] s with
    | none => rfl
    | some rest =>
      simp only [Option.map_some, Option.bind_some, echoAfter?_wordy h]
      cases echoAfter? rest <;> rfl
  | comment =>
    simp only [Rule.match?, Option.bind_eq_bind]
    rw [after?_wordy h hs (by decide)]
    cases after? ['\x7b', '-', '-'] s with
    | none => rfl
    | some rest =>
      have hcut := cut?_append_last (s := rest) (u := ['-', '-']) h.unbraced
      simp only [List.cons_append, List.nil_append] at hcut
      simp only [Option.map_some, Option.bind_some, hcut]
      cases cut? ['-', '-', '\x7d'] rest <;> rfl

theorem first?_wordy (h : Wordy w) (hs : s ≠ []) (rules : List Rule) :
    first? rules (s ++ w) = (first? rules s).map (·.before w) := by
  rw [first?, first?, List.map_findSome?]
  exact congrArg (List.findSome? · rules) (funext fun r => match?_wordy h hs r)

theorem next?_wordy (h : Wordy w) {rules : List Rule} {f : Found} (hw : first? rules w = some f) :
    next? rules (s ++ w) =
      match next? rules s with
      | some (gap, g) => some (gap, g.before w)
      | none => some (s, f) := by
  induction s with
  | nil =>
    obtain ⟨v, rfl⟩ := h.begins
    exact next?_of_first? hw (List.cons_ne_nil _ _)
  | cons c s ih =>
    rw [List.cons_append, next?, next?, ← List.cons_append, first?_wordy h (List.cons_ne_nil c s), ih]
    cases first? rules (c :: s) with
    | some g => rfl
    | none => cases next? rules s <;> rfl

theorem closeArgument?_append {depth : Nat} {quote : Option Char} {raw rest : List Char}
    (h : closeArgument? depth quote s = some (raw, rest)) (w : List Char) :
    closeArgument? depth quote (s ++ w) = some (raw, rest ++ w) := by
  have go {o o' : Option (List Char × List Char)} {c : Char} {raw : List Char}
      (ih : ∀ {raw}, o = some (raw, rest) → o' = some (raw, rest ++ w))
      (h : (o.map fun (raw, after) => (c :: raw, after)) = some (raw, rest)) :
      (o'.map fun (raw, after) => (c :: raw, after)) = some (raw, rest ++ w) := by
    obtain ⟨raw', rfl, ho⟩ := exists_of_map_cons h
    rw [ih ho]
    rfl
  fun_induction closeArgument? depth quote s generalizing raw with
  | case1 => cases h
  | case2 depth q c s ih =>
    obtain ⟨⟨raw', rest'⟩, ho, heq⟩ := Option.map_eq_some_iff.1 h
    obtain ⟨rfl, rfl⟩ := Prod.mk.inj heq
    rw [List.cons_append, List.cons_append, closeArgument?, ih ho]
    rfl
  | case3 depth q c s hc ih =>
    by_cases hb : c = '\\'
    · obtain rfl : s = [] := by
        cases s with
        | nil => rfl
        | cons c' s => exact (hc c' s hb rfl).elim
      simp [closeArgument?] at h
    · rw [List.cons_append, closeArgument?_inside hb]
      exact go ih h
  | case4 depth c s hq ih =>
    rw [List.cons_append, closeArgument?_quote hq]
    exact go ih h
  | case5 depth s hq ih =>
    rw [List.cons_append, closeArgument?_open]
    exact go ih h
  | case6 s hq ho =>
    obtain ⟨rfl, rfl⟩ := Prod.mk.inj (Option.some.inj h)
    rfl
  | case7 depth s hq ho ih =>
    rw [List.cons_append, closeArgument?, if_neg hq, if_neg ho, if_pos rfl]
    exact go ih h
  | case8 depth c s hq ho hc ih =>
    rw [List.cons_append, closeArgument?_plain (by simp [isPlain, hq, ho, hc])]
    exact go ih h

theorem argument?_append {g rest : List Char} (h : argument? s = some (g, rest)) (w : List Char) :
    argument? (s ++ w) = some (g, rest ++ w) := by
  obtain ⟨⟨raw, after⟩, hr, heq⟩ := Option.map_eq_some_iff.1 h
  obtain ⟨rfl, rfl⟩ := Prod.mk.inj heq
  rw [argument?, closeArgument?_append hr]
  rfl

end Stencil.Tag
