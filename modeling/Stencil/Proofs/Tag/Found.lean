import Stencil.Proofs.Text.Class
import Stencil.Proofs.Text.Search
import Stencil.Tag.Scan
/-!
# What a scan finds

A tag that a scan finds is a match of its rule at the place where the text before it ends, and what comes
after it is an end of the text.
-/

namespace Stencil.Tag

open Text

variable {rules : List Rule} {s : List Char} {f : Found}

theorem Rule.rule_of_match? {r : Rule} (h : r.match? s = some f) : f.rule = r := by
  cases r with
  | inclusion | choice | further | otherwise | endChoice | loop | endLoop =>
    obtain ⟨rest, -, rfl⟩ := Option.map_eq_some_iff.1 h
    rfl
  | echo | comment =>
    obtain ⟨rest, -, h⟩ := Option.bind_eq_some_iff.1 h
    obtain ⟨pair, -, h⟩ := Option.bind_eq_some_iff.1 h
    obtain rfl := Option.some.inj h
    rfl

theorem match?_of_first? (h : first? rules s = some f) : f.rule.match? s = some f := by
  obtain ⟨r, -, hr⟩ := List.exists_of_findSome?_eq_some h
  rw [Rule.rule_of_match? hr]
  exact hr

theorem next?_split {gap : List Char} (h : next? rules s = some (gap, f)) :
    ∃ tail, s = gap ++ tail ∧ first? rules tail = some f := by
  fun_induction next? rules s generalizing gap with
  | case1 => cases h
  | case2 c s g hg =>
    obtain ⟨rfl, rfl⟩ := Prod.mk.inj (Option.some.inj h)
    exact ⟨c :: s, rfl, hg⟩
  | case3 c s _ ih =>
    obtain ⟨⟨gap', g⟩, hn, heq⟩ := Option.map_eq_some_iff.1 h
    obtain ⟨rfl, rfl⟩ := Prod.mk.inj heq
    obtain ⟨tail, rfl, hfirst⟩ := ih hn
    exact ⟨tail, rfl, hfirst⟩

theorem echoBody?_split {body after : List Char} (h : echoBody? s = some (body, after)) :
    ∃ b, Blank b ∧ s = body ++ (b ++ (echoEnd ++ after)) ∧ body ≠ [] := by
  fun_induction echoBody? s generalizing body with
  | case1 => cases h
  | case2 => cases h
  | case3 c s _ rest ha =>
    obtain ⟨rfl, rfl⟩ := Prod.mk.inj (Option.some.inj h)
    obtain ⟨b, hb, hs⟩ := dropBlanks_split s
    rw [after?_eq_some_iff.1 ha] at hs
    exact ⟨b, hb, congrArg (List.cons c) hs, List.cons_ne_nil _ _⟩
  | case4 c s _ _ ih =>
    obtain ⟨⟨body', rest⟩, hr, heq⟩ := Option.map_eq_some_iff.1 h
    obtain ⟨rfl, rfl⟩ := Prod.mk.inj heq
    obtain ⟨b, hb, hs, -⟩ := ih hr
    exact ⟨b, hb, congrArg (List.cons c) hs, List.cons_ne_nil _ _⟩

theorem echoAfter?_split {expr after : List Char} (h : echoAfter? s = some (expr, after)) :
    ∃ inner, s = inner ++ (echoEnd ++ after) ∧ expr ≠ [] := by
  obtain ⟨b₀, hb₀, hs⟩ := dropBlanks_split s
  unfold echoAfter? at h
  split at h
  · next found hf =>
    obtain rfl := Option.some.inj h
    obtain ⟨b, hb, hbody, hne⟩ := echoBody?_split hf
    refine ⟨b₀ ++ (expr ++ b), ?_, hne⟩
    rw [hs, hbody]
    simp only [List.append_assoc]
  · split at h
    · next rest c ha _ =>
      obtain ⟨rfl, rfl⟩ := Prod.mk.inj (Option.some.inj h)
      refine ⟨b₀, ?_, List.cons_ne_nil _ _⟩
      rw [hs, after?_eq_some_iff.1 ha]
    · cases h

theorem suffix_of_match? {r : Rule} (h : r.match? s = some f) : f.rest <:+ s := by
  cases r with
  | inclusion | choice | further | loop =>
    obtain ⟨rest, ha, rfl⟩ := Option.map_eq_some_iff.1 h
    exact ⟨_, (after?_eq_some_iff.1 ha).symm⟩
  | otherwise =>
    obtain ⟨rest, ha, rfl⟩ := Option.map_eq_some_iff.1 h
    exact (List.dropWhile_suffix isWord).trans ⟨_, (after?_eq_some_iff.1 ha).symm⟩
  | endChoice | endLoop =>
    obtain ⟨rest, ha, rfl⟩ := Option.map_eq_some_iff.1 h
    exact ⟨_, (after?_eq_some_iff.1 (Option.filter_eq_some_iff.1 ha).1).symm⟩
  | echo =>
    obtain ⟨rest, ha, h⟩ := Option.bind_eq_some_iff.1 h
    obtain ⟨⟨expr, after⟩, he, h⟩ := Option.bind_eq_some_iff.1 h
    obtain rfl := Option.some.inj h
    obtain ⟨inner, hinner, -⟩ := echoAfter?_split he
    rw [after?_eq_some_iff.1 ha, hinner, ← List.append_assoc, ← List.append_assoc]
    exact List.suffix_append _ _
  | comment =>
    obtain ⟨rest, ha, h⟩ := Option.bind_eq_some_iff.1 h
    obtain ⟨⟨inner, after⟩, hc, h⟩ := Option.bind_eq_some_iff.1 h
    obtain rfl := Option.some.inj h
    rw [after?_eq_some_iff.1 ha, ((cut?_eq_some_iff (List.cons_ne_nil _ _)).1 hc).1, ← List.append_assoc,
      ← List.append_assoc]
    exact List.suffix_append _ _

theorem suffix_of_next? {gap : List Char} (h : next? rules s = some (gap, f)) : f.rest <:+ s := by
  obtain ⟨tail, rfl, hfirst⟩ := next?_split h
  exact (suffix_of_match? (match?_of_first? hfirst)).trans (List.suffix_append gap tail)

theorem scanFrom_end {offset : Nat} (h : next? rules s = none) : scanFrom rules offset s = [] := by
  rw [scanFrom]
  split
  · rfl
  · next hn =>
    rw [h] at hn
    cases hn

theorem scanFrom_tag {offset : Nat} {gap : List Char} (h : next? rules s = some (gap, f)) :
    scanFrom rules offset s =
      ⟨f.rule, offset + gap.length, offset + (s.length - f.rest.length), f.picked⟩ ::
        scanFrom rules (offset + (s.length - f.rest.length)) f.rest := by
  rw [scanFrom]
  split
  · next hn =>
    rw [h] at hn
    cases hn
  · next hn =>
    rw [h] at hn
    obtain ⟨rfl, rfl⟩ := Prod.mk.inj (Option.some.inj hn)
    rfl

theorem mem_scanFrom {offset : Nat} {t : Token} (h : t ∈ scanFrom rules offset s) :
    ∃ front tail f, s = front ++ tail ∧ first? rules tail = some f ∧
      t = ⟨f.rule, offset + front.length, offset + (s.length - f.rest.length), f.picked⟩ := by
  induction hlen : s.length using Nat.strongRecOn generalizing s offset with
  | ind n ih =>
    cases hnext : next? rules s with
    | none =>
      rw [scanFrom_end hnext] at h
      cases h
    | some pair =>
      obtain ⟨gap, f⟩ := pair
      rw [scanFrom_tag hnext] at h
      rcases List.mem_cons.1 h with rfl | h
      · obtain ⟨tail, hs, hfirst⟩ := next?_split hnext
        exact ⟨gap, tail, f, hs, hfirst, by rw [hlen]⟩
      · obtain ⟨used, hused⟩ := suffix_of_next? hnext
        have hlt : f.rest.length < n := hlen ▸ length_of_next? hnext
        obtain ⟨front, tail', f', hrest, hfirst', rfl⟩ := ih f.rest.length hlt h rfl
        refine ⟨used ++ front, tail', f', ?_, hfirst', ?_⟩
        · rw [List.append_assoc, ← hrest, hused]
        · have hle := length_of_first? hfirst'
          have h1 := congrArg List.length hused
          have h2 := congrArg List.length hrest
          simp only [List.length_append] at h1 h2
          simp only [List.length_append, Token.mk.injEq, true_and, and_true]
          omega

end Stencil.Tag
