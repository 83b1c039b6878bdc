import Stencil.Proofs.Text.Search
import Stencil.Template.Inclusion
/-!
# Expansion step by step

What becomes of a text at its first include. A text in which no include begins is left as it is, whatever
names stand for.
-/

namespace Stencil.Template

open Text Tag

variable {m : Type → Type} [Monad m] [MonadExceptOf Fault m]

theorem expandFrom_plain {fetch : Option (String → m (List Char))} {template s : List Char}
    (h : cut? includeMark s = none) : expandFrom fetch template s = pure s := by
  rw [expandFrom]
  split
  · rfl
  · next hc =>
    rw [h] at hc
    cases hc

theorem expandFrom_endless {fetch : Option (String → m (List Char))} {s before after : List Char}
    (hc : cut? includeMark s = some (before, after)) (ha : argument? after = none)
    (template : List Char) :
    expandFrom fetch template s =
      throw (.tag .endlessInclude (lineAt template (includeMark ++ after))) := by
  rw [expandFrom]
  split
  · next h =>
    rw [h] at hc
    cases hc
  · next h =>
    rw [h] at hc
    cases hc
    split
    · rfl
    · next h =>
      rw [h] at ha
      cases ha

theorem expandFrom_unresolved {s before after argument rest : List Char}
    (hc : cut? includeMark s = some (before, after)) (ha : argument? after = some (argument, rest))
    (template : List Char) :
    expandFrom (m := m) none template s =
      throw (.tag (.noResolver (includeName argument)) (lineAt template (includeMark ++ after))) := by
  rw [expandFrom]
  split
  · next h =>
    rw [h] at hc
    cases hc
  · next h =>
    rw [h] at hc
    cases hc
    split
    · next h =>
      rw [h] at ha
      cases ha
    · next h =>
      rw [h] at ha
      cases ha
      rfl

theorem expandFrom_include {fetch : String → m (List Char)} {s before after argument rest : List Char}
    (hc : cut? includeMark s = some (before, after)) (ha : argument? after = some (argument, rest))
    (template : List Char) :
    expandFrom (some fetch) template s = (do
      let inner ← fetch (includeName argument)
      let outer ← expandFrom (some fetch) template rest
      pure (before ++ inner ++ outer)) := by
  rw [expandFrom]
  split
  · next h =>
    rw [h] at hc
    cases hc
  · next h =>
    rw [h] at hc
    cases hc
    split
    · next h =>
      rw [h] at ha
      cases ha
    · next h =>
      rw [h] at ha
      cases ha
      rfl

theorem expand_plain {resolve : Option (String → m String)} {s : List Char}
    (h : cut? includeMark s = none) : expand resolve s = pure s :=
  expandFrom_plain h

/-- A text in which no include begins. -/
structure Free (s : List Char) : Prop where
  absent : ¬includeMark <:+: s

theorem expand_free {resolve : Option (String → m String)} {s : List Char} (h : Free s) :
    expand resolve s = pure s :=
  expand_plain ((cut?_eq_none_iff (List.cons_ne_nil _ _)).2 h.absent)

theorem Free.cons {c : Char} {s : List Char} (hc : c ≠ '@') (h : Free s) : Free (c :: s) := by
  constructor
  rw [List.infix_cons_iff]
  rintro (hp | hi)
  · exact hc (List.cons_prefix_cons.1 hp).1.symm
  · exact h.absent hi

theorem Free.tail {c : Char} {s : List Char} (h : Free (c :: s)) : Free s :=
  ⟨fun hi => h.absent (List.infix_cons hi)⟩

theorem Free.append {w s : List Char} (hw : '@' ∉ w) (h : Free s) : Free (w ++ s) := by
  induction w with
  | nil => exact h
  | cons c w ih =>
    obtain ⟨hc, hw⟩ := List.ne_and_not_mem_of_not_mem_cons hw
    exact (ih hw).cons hc.symm

theorem Free.join {u v : List Char} {x : Char} (hx : x ∉ includeMark) (hu : Free u) (hv : Free v) :
    Free (u ++ x :: v) :=
  ⟨not_infix_append hx hu.absent hv.absent⟩

end Stencil.Template
