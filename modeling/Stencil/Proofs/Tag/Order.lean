import Stencil.Proofs.Tag.Found
/-!
# The order of the rules

Each rule's tag begins with a text of its own, and of these only that of a last body is a beginning of
another one. So no two rules match at one place but the two that go on with a choice, and what a scan finds
depends on which rules there are and on the order of these two alone.
-/

namespace Stencil.Tag

open Text

variable {rules rules' : List Rule} {s : List Char} {f g : Found}

def Rule.head : Rule → List Char
  | .inclusion => "@include(".toList
  | .echo => "\x7b\x7b".toList
  | .choice => "@if(".toList
  | .further => "@elseif(".toList
  | .otherwise => "@else".toList
  | .endChoice => "@endif".toList
  | .loop => "@foreach(".toList
  | .endLoop => "@endforeach".toList
  | .comment => "\x7b--".toList

theorem prefix_of_after? {word rest : List Char} (h : after? word s = some rest) : word <+: s :=
  ⟨rest, (after?_eq_some_iff.1 h).symm⟩

theorem Rule.head_of_match? {r : Rule} (h : r.match? s = some f) : r.head <+: s := by
  cases r with
  | inclusion | choice | further | otherwise | loop =>
    obtain ⟨rest, ha, -⟩ := Option.map_eq_some_iff.1 h
    exact prefix_of_after? ha
  | endChoice | endLoop =>
    obtain ⟨rest, ha, -⟩ := Option.map_eq_some_iff.1 h
    exact prefix_of_after? (Option.filter_eq_some_iff.1 ha).1
  | echo | comment =>
    obtain ⟨rest, ha, -⟩ := Option.bind_eq_some_iff.1 h
    exact prefix_of_after? ha

theorem Rule.mem_allRules (r : Rule) : r ∈ allRules := by cases r <;> decide

theorem Rule.eq_of_heads {r q : Rule} (h : r.head <+: q.head) :
    r = q ∨ r = .otherwise ∧ q = .further := by
  have hall : ∀ r ∈ allRules, ∀ q ∈ allRules, r.head <+: q.head → r = q ∨ r = .otherwise ∧ q = .further := by
    decide
  exact hall r r.mem_allRules q q.mem_allRules h

theorem Rule.eq_of_match? {r q : Rule} (hr : r.match? s = some f) (hq : q.match? s = some g) :
    r = q ∨ r = .otherwise ∧ q = .further ∨ r = .further ∧ q = .otherwise := by
  rcases List.prefix_or_prefix_of_prefix (head_of_match? hr) (head_of_match? hq) with h | h
  · exact (eq_of_heads h).imp_right .inl
  · rcases eq_of_heads h with rfl | ⟨rfl, rfl⟩
    · exact .inl rfl
    · exact .inr (.inr ⟨rfl, rfl⟩)

/-- A list that has each of its rules once, the one for a further arm before the one for a last body. -/
structure Orderly (rules : List Rule) : Prop where
  nodup : rules.Nodup
  further_first : .further ∈ rules → .otherwise ∈ rules → [Rule.further, .otherwise].Sublist rules

theorem orderly_scanRules : Orderly scanRules := ⟨by decide, fun _ _ => by decide⟩

theorem Orderly.further_mem_left (h : Orderly rules) {before after : List Rule}
    (hrules : rules = before ++ .otherwise :: after) (hmem : .further ∈ rules) : .further ∈ before := by
  have hlast : .otherwise ∈ rules := by simp [hrules]
  have hsub := h.further_first hmem hlast
  have hnodup := h.nodup
  rw [hrules] at hsub hnodup
  have hafter : .otherwise ∉ after := (List.nodup_cons.1 (List.nodup_append.1 hnodup).2.1).1
  rw [List.sublist_append_iff] at hsub
  obtain ⟨u, v, huv, hu, hv⟩ := hsub
  cases u with
  | nil =>
    -- then both stand from the last body on, and it would stand there twice
    obtain rfl : v = [.further, .otherwise] := huv.symm
    cases hv with
    | cons _ hv => exact absurd (hv.subset (by simp)) hafter
  | cons r u =>
    obtain rfl : Rule.further = r := (List.cons.inj huv).1
    exact hu.subset List.mem_cons_self

theorem Orderly.first?_eq_some_iff (h : Orderly rules) :
    first? rules s = some f ↔ f.rule ∈ rules ∧ f.rule.match? s = some f ∧
      (f.rule = .otherwise → .further ∈ rules → Rule.further.match? s = none) := by
  have hfound {g : Found} (hg : first? rules s = some g) : g.rule ∈ rules ∧ g.rule.match? s = some g ∧
      (g.rule = .otherwise → .further ∈ rules → Rule.further.match? s = none) := by
    obtain ⟨before, r, after, hrules, hr, hnone⟩ := List.findSome?_eq_some_iff.1 hg
    obtain rfl := Rule.rule_of_match? hr
    refine ⟨by simp [hrules], hr, fun hlast hmem => ?_⟩
    exact hnone .further (h.further_mem_left (hlast ▸ hrules) hmem)
  refine ⟨hfound, ?_⟩
  rintro ⟨hmem, hf, hfurther⟩
  cases hfirst : first? rules s with
  | none =>
    rw [List.findSome?_eq_none_iff.1 hfirst f.rule hmem] at hf
    cases hf
  | some g =>
    obtain ⟨hgmem, hg, hgfurther⟩ := hfound hfirst
    rcases Rule.eq_of_match? hf hg with heq | ⟨hlast, hg'⟩ | ⟨hf', hlast⟩
    · rw [heq, hg] at hf
      exact hf
    · rw [hg', hfurther hlast (hg' ▸ hgmem)] at hg
      cases hg
    · rw [hf', hgfurther hlast (hf' ▸ hmem)] at hf
      cases hf

theorem Orderly.first?_eq (h : Orderly rules) (h' : Orderly rules') (hmem : ∀ r, r ∈ rules ↔ r ∈ rules')
    (s : List Char) : first? rules s = first? rules' s := by
  ext f
  rw [h.first?_eq_some_iff, h'.first?_eq_some_iff, hmem f.rule, hmem .further]

theorem next?_congr (h : ∀ s, first? rules s = first? rules' s) (s : List Char) :
    next? rules s = next? rules' s := by
  induction s with
  | nil => rfl
  | cons c s ih => rw [next?, next?, h, ih]

theorem scanFrom_congr (h : ∀ s, first? rules s = first? rules' s) (offset : Nat) (s : List Char) :
    scanFrom rules offset s = scanFrom rules' offset s := by
  induction hlen : s.length using Nat.strongRecOn generalizing s offset with
  | ind n ih =>
    have hnext := next?_congr h s
    cases hfound : next? rules s with
    | none =>
      rw [hfound] at hnext
      rw [scanFrom_end hfound, scanFrom_end hnext.symm]
    | some pair =>
      obtain ⟨gap, f⟩ := pair
      have hlt : f.rest.length < n := hlen ▸ length_of_next? hfound
      rw [hfound] at hnext
      rw [scanFrom_tag hfound, scanFrom_tag hnext.symm, ih f.rest.length hlt _ f.rest rfl]

/-- Tables of the same rules find the same tags in every text, at the same places and with the same texts
picked out of them, when both have the rule for a further arm before the one for a last body. -/
theorem scan_order (h : Orderly rules) (h' : Orderly rules') (hmem : ∀ r, r ∈ rules ↔ r ∈ rules')
    (text : List Char) : scan rules text = scan rules' text :=
  scanFrom_congr (h.first?_eq h' hmem) 0 text

theorem scan_order_sample :
    let turned : List Rule :=
      [.comment, .endLoop, .loop, .endChoice, .further, .otherwise, .choice, .echo, .inclusion]
    let text := "@if(a)\x7b\x7b b \x7d\x7d@elseif(c)\x7b--d--\x7d@else@endif@include(e)".toList
    Orderly allRules ∧ Orderly turned ∧ scan allRules text = scan turned text := by
  intro turned text
  have hall : Orderly allRules := ⟨by decide, fun _ _ => by decide⟩
  have hturned : Orderly turned := ⟨by decide, fun _ _ => by decide⟩
  have hmem : ∀ r, r ∈ allRules ↔ r ∈ turned := fun r => by cases r <;> decide
  exact ⟨hall, hturned, scan_order hall hturned hmem text⟩

/-- With the last body first, the tag of a further arm is one of a last body with a word glued to it. -/
example : first? [.otherwise, .further] "@elseif(a)".toList = some ⟨.otherwise, ['i', 'f'], "(a)".toList⟩ := by
  decide

end Stencil.Tag
