import Mathlib.Data.List.Basic
import Stencil.Text.Entity
/-!
# Texts for markup

A text for markup has none of the four other special characters, and each of its ampersands begins an
entity, whatever the text was before. The text is found again when its entities are read as characters.
-/

namespace Stencil.Text

@[simp] theorem replaceAll_nil (table : List (Char × List Char)) : replaceAll table [] = [] := by
  induction table with
  | nil => rfl
  | cons pair table ih => exact ih

@[simp] theorem replaceAll_append (table : List (Char × List Char)) (s t : List Char) :
    replaceAll table (s ++ t) = replaceAll table s ++ replaceAll table t := by
  induction table generalizing s t with
  | nil => rfl
  | cons pair table ih =>
    have hfirst : replaceChar pair.1 pair.2 (s ++ t) =
        replaceChar pair.1 pair.2 s ++ replaceChar pair.1 pair.2 t := List.flatMap_append
    show replaceAll table (replaceChar pair.1 pair.2 (s ++ t)) = _
    rw [hfirst, ih]
    rfl

theorem replaceAll_eq_flatMap (table : List (Char × List Char)) (s : List Char) :
    replaceAll table s = s.flatMap fun c => replaceAll table [c] := by
  induction s with
  | nil => exact replaceAll_nil table
  | cons c s ih =>
    rw [List.flatMap_cons, ← ih, ← replaceAll_append]
    rfl

theorem replaceAll_other {table : List (Char × List Char)} {c : Char} (h : c ∉ table.map (·.1)) :
    replaceAll table [c] = [c] := by
  induction table with
  | nil => rfl
  | cons pair table ih =>
    obtain ⟨hne, hrest⟩ := not_or.1 (mt List.mem_cons.2 h)
    have hfirst : replaceChar pair.1 pair.2 [c] = [c] := by simp [replaceChar, hne]
    show replaceAll table (replaceChar pair.1 pair.2 [c]) = [c]
    rw [hfirst, ih hrest]

def entities : List (List Char) := namedEntities.map (·.2)

def Marked (s : List Char) : Prop := ∀ u v, s = u ++ '&' :: v → ∃ e ∈ entities, e <+: '&' :: v

theorem marked_of_not_mem {s : List Char} (h : '&' ∉ s) : Marked s := by
  rintro u v rfl
  exact absurd (List.mem_append_right u List.mem_cons_self) h

theorem Marked.append {s t : List Char} (hs : Marked s) (ht : Marked t) : Marked (s ++ t) := by
  intro u v h
  rcases List.append_eq_append_iff.1 h with ⟨w, hu, hv⟩ | ⟨w, hu, hv⟩
  · exact ht w v hv
  · cases w with
    | nil => exact ht [] v hv.symm
    | cons c w =>
      obtain ⟨rfl, rfl⟩ := List.cons.inj hv
      obtain ⟨e, he, hprefix⟩ := hs u w hu
      exact ⟨e, he, hprefix.trans ⟨t, rfl⟩⟩

theorem Marked.flatten {parts : List (List Char)} (h : ∀ s ∈ parts, Marked s) : Marked parts.flatten := by
  induction parts with
  | nil => exact marked_of_not_mem List.not_mem_nil
  | cons s parts ih =>
    obtain ⟨hs, hparts⟩ := List.forall_mem_cons.1 h
    exact hs.append (ih hparts)

theorem marked_entity {e : List Char} (h : e ∈ entities) : Marked e := by
  have hone : ∀ e ∈ entities, ∃ w, e = '&' :: w ∧ '&' ∉ w := by simp [entities, namedEntities]
  obtain ⟨w, rfl, hw⟩ := hone e h
  intro u v hsplit
  cases u with
  | nil => exact ⟨_, h, hsplit ▸ List.prefix_refl _⟩
  | cons c u =>
    obtain ⟨-, rfl⟩ := List.cons.inj hsplit
    exact absurd (List.mem_append_right u List.mem_cons_self) hw

theorem special_cases {c : Char} (h : c ∈ namedEntities.map (·.1)) :
    c = '&' ∨ c = '<' ∨ c = '>' ∨ c = '"' ∨ c = '\'' := by
  simpa [namedEntities] using h

theorem escape_single (c : Char) : escape [c] ∈ entities ∨ escape [c] = [c] ∧ c ∉ namedEntities.map (·.1) := by
  by_cases h : c ∈ namedEntities.map (·.1)
  · left
    rcases special_cases h with rfl | rfl | rfl | rfl | rfl <;> decide
  · exact .inr ⟨replaceAll_other h, h⟩

theorem not_mem_escape {c : Char} (hc : c ∈ namedEntities.map (·.1)) (hne : c ≠ '&') (s : List Char) :
    c ∉ escape s := by
  have hall : ∀ e ∈ entities, c ∉ e := by
    rcases special_cases hc with rfl | rfl | rfl | rfl | rfl
    · exact absurd rfl hne
    all_goals decide
  intro hmem
  rw [escape, replaceAll_eq_flatMap] at hmem
  obtain ⟨d, -, hd⟩ := List.mem_flatMap.1 hmem
  rcases escape_single d with he | ⟨he, hother⟩
  · exact hall _ he hd
  · rw [← escape, he] at hd
    exact hother (List.mem_singleton.1 hd ▸ hc)

theorem marked_escape (s : List Char) : Marked (escape s) := by
  rw [escape, replaceAll_eq_flatMap, List.flatMap_def]
  refine Marked.flatten fun t ht => ?_
  obtain ⟨c, -, rfl⟩ := List.mem_map.1 ht
  rcases escape_single c with he | ⟨he, hother⟩
  · exact marked_entity he
  · rw [← escape, he]
    refine marked_of_not_mem fun hc => hother ?_
    rw [← List.mem_singleton.1 hc]
    decide

/-- What stands for a character in markup: its entity if it is special, and otherwise the character. -/
def inMarkup : Char → List Char
  | '&' => "&amp;".toList
  | '<' => "&lt;".toList
  | '>' => "&gt;".toList
  | '"' => "&quot;".toList
  | '\'' => "&#x27;".toList
  | c => [c]

theorem inMarkup_other {c : Char} (h : c ∉ namedEntities.map (·.1)) : inMarkup c = [c] := by
  have hc : c ≠ '&' ∧ c ≠ '<' ∧ c ≠ '>' ∧ c ≠ '"' ∧ c ≠ '\'' := by simpa [namedEntities] using h
  unfold inMarkup
  split <;> simp_all

theorem escape_eq_inMarkup (c : Char) : escape [c] = inMarkup c := by
  by_cases h : c ∈ namedEntities.map (·.1)
  · rcases special_cases h with rfl | rfl | rfl | rfl | rfl <;> decide
  · rw [inMarkup_other h]
    exact replaceAll_other h

theorem escape_eq_flatMap (s : List Char) : escape s = s.flatMap inMarkup := by
  rw [escape, replaceAll_eq_flatMap]
  exact congrArg s.flatMap (funext escape_eq_inMarkup)

theorem escape_cons (c : Char) (s : List Char) : escape (c :: s) = inMarkup c ++ escape s := by
  rw [escape_eq_flatMap, escape_eq_flatMap, List.flatMap_cons]

theorem length_inMarkup {c : Char} (h : c ∈ namedEntities.map (·.1)) : 1 < (inMarkup c).length := by
  rcases special_cases h with rfl | rfl | rfl | rfl | rfl <;> decide

theorem length_le_escape (s : List Char) : s.length ≤ (escape s).length := by
  induction s with
  | nil => exact Nat.zero_le _
  | cons c s ih =>
    rw [escape_cons, List.length_cons, List.length_append]
    by_cases h : c ∈ namedEntities.map (·.1)
    · have := length_inMarkup h
      omega
    · rw [inMarkup_other h, List.length_singleton]
      omega

theorem escape_eq_self_iff {s : List Char} : escape s = s ↔ ∀ c ∈ s, c ∉ namedEntities.map (·.1) := by
  induction s with
  | nil => simp [escape_eq_flatMap]
  | cons c s ih =>
    rw [escape_cons, List.forall_mem_cons]
    by_cases h : c ∈ namedEntities.map (·.1)
    · constructor
      · intro heq
        have hlength := congrArg List.length heq
        rw [List.length_append, List.length_cons] at hlength
        have := length_inMarkup h
        have := length_le_escape s
        omega
      · rintro ⟨hc, -⟩
        exact absurd h hc
    · rw [inMarkup_other h, List.singleton_append, List.cons_inj_right, ih]
      exact (and_iff_right h).symm

/-- A text with its entities read as the characters that they stand for, in one pass from left to right. -/
def readEntities : List Char → List Char
  | '&' :: 'a' :: 'm' :: 'p' :: ';' :: rest => '&' :: readEntities rest
  | '&' :: 'l' :: 't' :: ';' :: rest => '<' :: readEntities rest
  | '&' :: 'g' :: 't' :: ';' :: rest => '>' :: readEntities rest
  | '&' :: 'q' :: 'u' :: 'o' :: 't' :: ';' :: rest => '"' :: readEntities rest
  | '&' :: '#' :: 'x' :: '2' :: '7' :: ';' :: rest => '\'' :: readEntities rest
  | c :: rest => c :: readEntities rest
  | [] => []

theorem readEntities_cons {c : Char} (h : c ≠ '&') (rest : List Char) :
    readEntities (c :: rest) = c :: readEntities rest := by
  conv_lhs => unfold readEntities
  split <;> simp_all

theorem readEntities_inMarkup {c : Char} (h : c ∈ namedEntities.map (·.1)) (rest : List Char) :
    readEntities (inMarkup c ++ rest) = c :: readEntities rest := by
  rcases special_cases h with rfl | rfl | rfl | rfl | rfl <;> rfl

theorem readEntities_escape_append (s t : List Char) : readEntities (escape s ++ t) = s ++ readEntities t := by
  induction s with
  | nil => rfl
  | cons c s ih =>
    rw [escape_cons, List.append_assoc]
    by_cases h : c ∈ namedEntities.map (·.1)
    · rw [readEntities_inMarkup h, ih, List.cons_append]
    · have hc : c ≠ '&' := by
        rintro rfl
        exact h (by decide)
      rw [inMarkup_other h, List.singleton_append, readEntities_cons hc, ih, List.cons_append]

@[simp] theorem readEntities_escape (s : List Char) : readEntities (escape s) = s := by
  have h := readEntities_escape_append s []
  rw [List.append_nil] at h
  rw [h, readEntities, List.append_nil]

end Stencil.Text
