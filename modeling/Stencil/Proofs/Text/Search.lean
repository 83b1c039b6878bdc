import Stencil.Text.Search
/-!
# Where a text occurs

What is found of one text in another is its first occurrence, and nothing is found just when there is none.
-/

namespace Stencil.Text

theorem cut?_eq_none_iff {sub s : List Char} (hne : sub ≠ []) : cut? sub s = none ↔ ¬sub <:+: s := by
  induction s with
  | nil => simp [cut?, hne]
  | cons c rest ih =>
    rw [cut?, List.infix_cons_iff, not_or, ← ih]
    cases ha : after? sub (c :: rest) with
    | some after =>
      have : sub <+: c :: rest := ⟨after, (after?_eq_some_iff.1 ha).symm⟩
      simp [this]
    | none =>
      have : ¬sub <+: c :: rest := by
        rintro ⟨after, h⟩
        rw [after?_eq_some_iff.2 h.symm] at ha
        cases ha
      simp [this]

theorem cut?_eq_some_iff {sub s before after : List Char} (hne : sub ≠ []) :
    cut? sub s = some (before, after) ↔
      s = before ++ (sub ++ after) ∧ ∀ q < before.length, ¬sub <+: s.drop q := by
  induction s generalizing before with
  | nil =>
    constructor
    · intro h
      simp [cut?, hne] at h
    · rintro ⟨h, -⟩
      simp [hne] at h
  | cons c rest ih =>
    rw [cut?]
    cases ha : after? sub (c :: rest) with
    | some found =>
      have hs : c :: rest = sub ++ found := after?_eq_some_iff.1 ha
      constructor
      · intro h
        obtain ⟨rfl, rfl⟩ := Prod.mk.inj (Option.some.inj h)
        exact ⟨hs, by simp⟩
      · rintro ⟨h, hfirst⟩
        cases before with
        | nil =>
          obtain rfl := List.append_cancel_left (hs.symm.trans h)
          rfl
        | cons b before => exact absurd ⟨found, hs.symm⟩ (hfirst 0 (by simp))
    | none =>
      have hno : ¬sub <+: c :: rest := by
        rintro ⟨found, h⟩
        rw [after?_eq_some_iff.2 h.symm] at ha
        cases ha
      constructor
      · intro h
        obtain ⟨⟨b, a⟩, hb, heq⟩ := Option.map_eq_some_iff.1 h
        obtain ⟨rfl, rfl⟩ := Prod.mk.inj heq
        obtain ⟨hs, hfirst⟩ := ih.1 hb
        refine ⟨congrArg (List.cons c) hs, ?_⟩
        intro q hq
        cases q with
        | zero => exact hno
        | succ q => exact hfirst q (by simpa using hq)
      · rintro ⟨h, hfirst⟩
        cases before with
        | nil => exact absurd ⟨after, h.symm⟩ hno
        | cons b before =>
          obtain ⟨rfl, hs⟩ := List.cons.inj h
          rw [ih.2 ⟨hs, fun q hq => hfirst (q + 1) (by simpa using hq)⟩]
          rfl

theorem cut?_here {sub : List Char} (hne : sub ≠ []) (s : List Char) : cut? sub (sub ++ s) = some ([], s) :=
  (cut?_eq_some_iff hne).2 ⟨rfl, by simp⟩

theorem cut?_append {sub s before after : List Char} (hne : sub ≠ [])
    (h : cut? sub s = some (before, after)) (w : List Char) :
    cut? sub (s ++ w) = some (before, after ++ w) := by
  obtain ⟨rfl, hfirst⟩ := (cut?_eq_some_iff hne).1 h
  refine (cut?_eq_some_iff hne).2 ⟨by simp, fun q hq hp => hfirst q hq ?_⟩
  rw [List.drop_append_of_le_length (by simp; omega)] at hp
  refine List.prefix_of_prefix_length_le hp (List.prefix_append _ w) ?_
  simp only [List.length_drop, List.length_append]
  omega

theorem cut?_append_of_not_mem {c : Char} {sub b : List Char} (hb : c ∉ b) (s : List Char) :
    cut? (c :: sub) (b ++ s) = (cut? (c :: sub) s).map fun (before, after) => (b ++ before, after) := by
  induction b with
  | nil => simp
  | cons d b ih =>
    obtain ⟨hd, hb⟩ := List.ne_and_not_mem_of_not_mem_cons hb
    rw [List.cons_append, cut?, after?, if_neg hd, ih hb, Option.map_map]
    rfl

theorem prefix_of_not_mem {sub u v : List Char} {x : Char} (hx : x ∉ sub) (h : sub <+: u ++ x :: v) :
    sub <+: u := by
  have hux : u ++ [x] <+: u ++ x :: v := ⟨v, by simp⟩
  rcases List.prefix_or_prefix_of_prefix h hux with h | h
  · rcases List.prefix_concat_iff.1 h with rfl | h
    · exact absurd (by simp) hx
    · exact h
  · exact absurd (h.subset (by simp)) hx

theorem not_infix_append {sub u v : List Char} {x : Char} (hx : x ∉ sub)
    (hu : ¬sub <:+: u) (hv : ¬sub <:+: v) : ¬sub <:+: u ++ x :: v := by
  induction u with
  | nil =>
    rw [List.nil_append, List.infix_cons_iff]
    rintro (h | h)
    · exact hu (prefix_of_not_mem hx (u := []) h).isInfix
    · exact hv h
  | cons c u ih =>
    rw [List.infix_cons_iff, not_or] at hu
    rw [List.cons_append, List.infix_cons_iff]
    rintro (h | h)
    · exact hu.1 (prefix_of_not_mem hx (u := c :: u) h)
    · exact ih hu.2 h

end Stencil.Text
