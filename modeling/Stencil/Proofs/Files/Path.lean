import Stencil.Path
import Stencil.Proofs.Text.Split
/-!
# What paths spell

A component of a path spells itself, and a place of components is spelled by one text only. Paths without a
root go on from the path before them, and one with a root makes it forgotten.
-/

namespace Stencil.Path

open Text

variable {place parts : List String} {part : String} {p : Path}

structure Component (part : String) : Prop where
  nonempty : part ≠ ""
  unpointed : part ≠ "."
  unslashed : '/' ∉ part.toList

theorem partsOf_eq (text : List Char) :
    partsOf text = ((text.splitOn '/').map String.ofList).filter fun part => part ≠ "" && part ≠ "." := by
  rw [partsOf, splitOn_char (Nat.le_refl _)]

theorem component_of_mem {text : List Char} (h : part ∈ partsOf text) : Component part := by
  rw [partsOf_eq, List.mem_filter, List.mem_map] at h
  obtain ⟨⟨piece, hpiece, rfl⟩, hkept⟩ := h
  simp only [Bool.and_eq_true, decide_eq_true_eq] at hkept
  refine ⟨hkept.1, hkept.2, fun hmem => ?_⟩
  rw [String.toList_ofList] at hmem
  exact (exists_piece_iff.1 ⟨piece, hpiece, hmem⟩).2 rfl

theorem mem_of_mem_component {text : List Char} {c : Char} (h : part ∈ partsOf text)
    (hc : c ∈ part.toList) : c ∈ text := by
  rw [partsOf_eq, List.mem_filter, List.mem_map] at h
  obtain ⟨⟨piece, hpiece, rfl⟩, -⟩ := h
  rw [String.toList_ofList] at hc
  exact (exists_piece_iff.1 ⟨piece, hpiece, hc⟩).1

theorem partsOf_ne_nil {text : List Char} {c : Char} (hmem : c ∈ text) (hslash : c ≠ '/') (hpoint : c ≠ '.') :
    partsOf text ≠ [] := by
  obtain ⟨piece, hpiece, hc⟩ := exists_piece_iff.2 ⟨hmem, hslash⟩
  refine List.ne_nil_of_mem (a := String.ofList piece) ?_
  rw [partsOf_eq, List.mem_filter]
  refine ⟨List.mem_map_of_mem hpiece, ?_⟩
  have hkept {s : String} (hs : c ∉ s.toList) : String.ofList piece ≠ s := by
    rintro rfl
    exact hs (by rwa [String.toList_ofList])
  have hempty : String.ofList piece ≠ "" := hkept (by simp)
  have hdot : String.ofList piece ≠ "." := hkept (by simpa using hpoint)
  simp [hempty, hdot]

namespace Component

theorem partsOf (h : Component part) : partsOf part.toList = [part] := by
  rw [partsOf_eq, List.splitOn_eq_singleton h.unslashed]
  simp [h.nonempty, h.unpointed]

theorem rootOf (h : Component part) : rootOf part.toList = .relative := by
  have hrun : part.toList.takeWhile (· == '/') = [] := by
    cases hs : part.toList with
    | nil => rfl
    | cons c s =>
      have hc : c ≠ '/' := fun hc => h.unslashed (by rw [hs, hc]; exact List.mem_cons_self)
      exact List.takeWhile_cons_of_neg (by simpa using hc)
  rw [Path.rootOf, hrun]
  rfl

theorem ofText (h : Component part) : ofText part = ⟨.relative, [part]⟩ := by
  rw [Path.ofText, h.rootOf, h.partsOf]

theorem append {more : String} (h : Component part) (hpoint : '.' ∉ part.toList)
    (hmore : '/' ∉ more.toList) : Component (part ++ more) ∧ part ++ more ≠ ".." := by
  have hne : part.toList ≠ [] := fun hnil => h.nonempty (String.toList_eq_nil_iff.1 hnil)
  obtain ⟨c, s, hs⟩ := List.exists_cons_of_ne_nil hne
  have hc : c ≠ '.' := fun hc => hpoint (by rw [hs, hc]; exact List.mem_cons_self)
  -- the first character is none of the points that other parts are made of
  have hother {other : String} (ho : other.toList.head? ≠ some c) : part ++ more ≠ other := by
    rintro rfl
    exact ho (by rw [String.toList_append, hs]; rfl)
  refine ⟨⟨hother nofun, hother ?_, ?_⟩, hother ?_⟩
  · simpa using Ne.symm hc
  · rw [String.toList_append, List.mem_append, not_or]
    exact ⟨h.unslashed, hmore⟩
  · simpa using Ne.symm hc

end Component

theorem clean_ofText (text : String) : ∀ part ∈ (ofText text).parts, Component part :=
  fun _ h => component_of_mem h

theorem clean_join {q : Path} (hp : ∀ part ∈ p.parts, Component part) (hq : ∀ part ∈ q.parts, Component part) :
    ∀ part ∈ (p.join q).parts, Component part := by
  unfold join
  split
  · exact fun part h => (List.mem_append.1 h).elim (hp part) (hq part)
  · exact hq

theorem foldl_join_relative {qs : List Path} (h : ∀ q ∈ qs, q.root = .relative) (p : Path) :
    qs.foldl join p = { p with parts := p.parts ++ qs.flatMap (·.parts) } := by
  induction qs generalizing p with
  | nil => simp
  | cons q qs ih =>
    have hjoin : p.join q = { p with parts := p.parts ++ q.parts } := by
      rw [join, h q List.mem_cons_self]
    rw [List.foldl_cons, ih (fun q hq => h q (List.mem_cons_of_mem _ hq)), hjoin]
    simp [List.append_assoc]

theorem foldl_join_rooted {qs : List Path} {q : Path} (hmem : q ∈ qs) (hroot : q.root ≠ .relative)
    (p p' : Path) : qs.foldl join p = qs.foldl join p' := by
  obtain ⟨before, after, rfl⟩ := List.append_of_mem hmem
  have hjoin (p : Path) : p.join q = q := by
    unfold join
    split
    · next h => exact absurd h hroot
    · rfl
  simp only [List.foldl_append, List.foldl_cons, hjoin]

theorem foldl_step_eq (h : ".." ∉ parts) (place : List String) : parts.foldl step place = place ++ parts := by
  induction parts generalizing place with
  | nil => simp
  | cons part parts ih =>
    rw [List.mem_cons, not_or] at h
    rw [List.foldl_cons, step, if_neg (Ne.symm h.1), ih h.2, List.append_assoc, List.singleton_append]

theorem place_append (h : ".." ∉ parts) (p : Path) :
    ({ p with parts := p.parts ++ parts } : Path).place = p.place ++ parts := by
  rw [place, List.foldl_append, foldl_step_eq h]
  rfl

theorem mem_of_mem_place (h : part ∈ p.place) : part ∈ p.parts := by
  have hstep (parts place : List String) :
      ∀ part ∈ parts.foldl step place, part ∈ place ∨ part ∈ parts := by
    induction parts generalizing place with
    | nil => exact fun part h => .inl h
    | cons first parts ih =>
      intro part h
      rcases ih _ part h with h | h
      · unfold step at h
        split at h
        · exact .inl ((List.dropLast_sublist place).mem h)
        · rcases List.mem_append.1 h with h | h
          · exact .inl h
          · exact .inr (List.mem_singleton.1 h ▸ List.mem_cons_self)
      · exact .inr (List.mem_cons_of_mem first h)
  exact (hstep p.parts [] part h).resolve_left List.not_mem_nil

theorem partsOf_text (h : ∀ part ∈ place, Component part) : partsOf (ofPlace place).text.toList = place := by
  have htext : (ofPlace place).text.toList = '/' :: ['/'].intercalate (place.map String.toList) := by
    simp [text, ofPlace, rootText, String.toList_intercalate]
  have hcut : ('/' :: ['/'].intercalate (place.map String.toList)).splitOn '/' =
      [] :: (['/'].intercalate (place.map String.toList)).splitOn '/' :=
    List.splitOn_append_cons_self_of_not_mem (List.not_mem_nil (a := '/')) _
  have hkeep : place.filter (fun part => part ≠ "" && part ≠ ".") = place := by
    refine List.filter_eq_self.2 fun part hpart => ?_
    simp [(h part hpart).nonempty, (h part hpart).unpointed]
  rw [htext, partsOf_eq, hcut]
  cases place with
  | nil => rfl
  | cons first rest =>
    rw [List.splitOn_intercalate '/' ?_ (by simp)]
    · simpa using hkeep
    · intro piece hpiece
      obtain ⟨part, hpart, rfl⟩ := List.mem_map.1 hpiece
      exact (h part hpart).unslashed

theorem text_injective {other : List String} (h : ∀ part ∈ place, Component part)
    (h' : ∀ part ∈ other, Component part) (heq : (ofPlace place).text = (ofPlace other).text) :
    place = other := by
  rw [← partsOf_text h, heq, partsOf_text h']

end Stencil.Path
