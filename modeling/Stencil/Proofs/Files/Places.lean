import Stencil.Proofs.Files.Folders
import Stencil.Template.Root
/-!
# Places that lead to themselves

A place without pairs of points leads to itself, through the places that it begins with. What stands at
these is all that matters for reading it, and the place of a template is of this kind.
-/

namespace Stencil

namespace Files

variable {fs fs' : Files} {folder place parts : List String} {part : String}

theorem next_eq (hdots : part ≠ "..") (h : next folder part = .ok place) : place = folder ++ [part] := by
  unfold next at h
  rw [if_neg hdots] at h
  split at h
  · cases h
  · split at h
    · cases h
    · exact (Except.ok.inj h).symm

theorem enter_prefixes (hdots : ".." ∉ parts)
    (h : ∀ q, q <+: folder ++ parts → fs'.node? q = fs.node? q) :
    fs'.enter folder parts = fs.enter folder parts := by
  induction parts generalizing folder with
  | nil => rfl
  | cons part rest ih =>
    rw [List.mem_cons, not_or] at hdots
    rw [enter, enter]
    cases hn : next folder part with
    | error fault => rfl
    | ok q =>
      obtain rfl := next_eq (Ne.symm hdots.1) hn
      have hsplit : folder ++ part :: rest = folder ++ [part] ++ rest := by simp
      rw [hsplit] at h
      have hnode := h (folder ++ [part]) (List.prefix_append _ _)
      simp only [bind, Except.bind, hnode, ih hdots.2 h]

theorem enter_eq (hdots : ".." ∉ parts) (h : fs.enter folder parts = .ok place) :
    place = folder ++ parts := by
  induction parts generalizing folder with
  | nil =>
    obtain rfl := Except.ok.inj h
    simp
  | cons part rest ih =>
    rw [List.mem_cons, not_or] at hdots
    obtain ⟨q, hn, he⟩ := exists_of_bind_ok h
    obtain rfl := next_eq (Ne.symm hdots.1) hn
    split at he
    · rw [ih hdots.2 he]
      simp
    · cases he
    · cases he

theorem find_eq (hdots : ".." ∉ parts) (h : fs.find parts = .ok place) : place = parts := by
  unfold find at h
  rcases List.eq_nil_or_concat parts with rfl | ⟨front, part, rfl⟩
  · exact (Except.ok.inj h).symm
  · rw [List.concat_eq_append] at h hdots ⊢
    simp only [List.mem_append, List.mem_singleton, not_or] at hdots
    rw [List.getLast?_concat] at h
    obtain ⟨folder, he, hn⟩ := exists_of_bind_ok h
    rw [List.dropLast_concat] at he
    rw [next_eq (Ne.symm hdots.2) hn, enter_eq hdots.1 he, List.nil_append]

theorem find_prefixes (hdots : ".." ∉ parts) (h : ∀ q, q <+: parts → fs'.node? q = fs.node? q) :
    fs'.find parts = fs.find parts := by
  unfold find
  rcases List.eq_nil_or_concat parts with rfl | ⟨front, part, rfl⟩
  · rfl
  · rw [List.concat_eq_append] at h hdots ⊢
    rw [List.dropLast_concat]
    have hfront : ".." ∉ front := fun hmem => hdots (List.mem_append_left _ hmem)
    have henter : fs'.enter [] front = fs.enter [] front :=
      enter_prefixes hfront fun q hq => h q (List.IsPrefix.trans hq (List.prefix_append front [part]))
    rw [henter]

theorem read_prefixes (hdots : ".." ∉ parts) (h : ∀ q, q <+: parts → fs'.node? q = fs.node? q) :
    fs'.read parts = fs.read parts := by
  unfold read
  rw [find_prefixes hdots h]
  cases hf : fs.find parts with
  | error fault => rfl
  | ok place =>
    obtain rfl := find_eq hdots hf
    simp only [bind, Except.bind, h place (List.prefix_refl place)]

theorem readText_prefixes (hdots : ".." ∉ parts) (h : ∀ q, q <+: parts → fs'.node? q = fs.node? q) :
    fs'.readText parts = fs.readText parts := by
  simp only [readText, read_prefixes hdots h]

end Files

theorem Path.dots_not_mem_place (p : Path) : ".." ∉ p.place := by
  have hstep : ∀ (parts place : List String), ".." ∉ place → ".." ∉ parts.foldl Path.step place := by
    intro parts
    induction parts with
    | nil => exact fun _ h => h
    | cons part rest ih =>
      intro place h
      refine ih _ ?_
      unfold Path.step
      split
      · exact fun hmem => h ((List.dropLast_sublist place).mem hmem)
      · next hne =>
        rw [List.mem_append, List.mem_singleton, not_or]
        exact ⟨h, Ne.symm hne⟩
  exact hstep p.parts [] List.not_mem_nil

namespace TemplateRoot

theorem dots_not_mem_locate {r : TemplateRoot} {name : String} {place : List String}
    (h : r.locate name = .ok place) : ".." ∉ place := by
  unfold locate at h
  dsimp only at h
  split at h
  · cases h
  · obtain ⟨p, -, hp⟩ := exists_of_bind_ok h
    unfold placeOf at hp
    split at hp
    · cases hp
    · obtain rfl := Except.ok.inj hp
      exact p.dots_not_mem_place

end TemplateRoot

end Stencil
