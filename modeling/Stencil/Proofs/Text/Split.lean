import Mathlib.Data.List.Infix
import Stencil.Proofs.Text.Search
/-!
# Pieces between separators

A text that is cut at every occurrence of one character. Its pieces have all its other characters, and pieces
without the separator are found again when they are joined.
-/

namespace Stencil.Text

variable {sep : Char}

theorem not_mem_of_cut? {s before after : List Char} (h : cut? [sep] s = some (before, after)) :
    sep ∉ before := by
  obtain ⟨rfl, hfirst⟩ := (cut?_eq_some_iff (List.cons_ne_nil sep [])).1 h
  intro hmem
  obtain ⟨u, v, rfl⟩ := List.append_of_mem hmem
  refine hfirst u.length (by simp) ⟨v ++ ([sep] ++ after), ?_⟩
  rw [List.append_assoc, List.drop_left]
  rfl

theorem splitOn_char {n : Nat} {s : List Char} (h : s.length ≤ n) : splitOn [sep] n s = s.splitOn sep := by
  induction n generalizing s with
  | zero =>
    obtain rfl := List.length_eq_zero_iff.1 (Nat.le_zero.1 h)
    rfl
  | succ n ih =>
    rw [splitOn]
    cases hc : cut? [sep] s with
    | none =>
      rw [cut?_eq_none_iff (List.cons_ne_nil sep []), List.singleton_infix_iff] at hc
      exact (List.splitOn_eq_singleton hc).symm
    | some pair =>
      obtain ⟨before, after⟩ := pair
      have hbefore := not_mem_of_cut? hc
      obtain ⟨rfl, -⟩ := (cut?_eq_some_iff (List.cons_ne_nil sep [])).1 hc
      simp only [List.length_append, List.length_singleton] at h
      show before :: splitOn [sep] n after = _
      rw [ih (by omega)]
      exact (List.splitOn_append_cons_self_of_not_mem hbefore after).symm

theorem flatten_splitOn (s : List Char) : (s.splitOn sep).flatten = s.filter (· ≠ sep) := by
  induction s with
  | nil => rfl
  | cons c s ih =>
    rw [List.splitOn_cons_eq_if_modifyHead]
    by_cases hc : c = sep
    · simp [hc, ih]
    · obtain ⟨piece, pieces, hs⟩ := List.exists_cons_of_ne_nil (List.splitOn_ne_nil sep s)
      rw [hs] at ih
      simpa [hc, hs] using ih

theorem exists_piece_iff {s : List Char} {c : Char} :
    (∃ piece ∈ s.splitOn sep, c ∈ piece) ↔ c ∈ s ∧ c ≠ sep := by
  rw [← List.mem_flatten, flatten_splitOn, List.mem_filter, decide_eq_true_eq]

end Stencil.Text
