import Stencil.Text.Blank
import Stencil.Text.Word
/-!
# Classes of characters

White space and word characters are disjoint, and a run of one class ends where another character stands.
-/

namespace Stencil.Text

theorem isWord_of_isNameStart {c : Char} (h : isNameStart c = true) : isWord c = true := by
  simp only [isNameStart, Bool.or_eq_true, Bool.and_eq_true, decide_eq_true_eq, beq_iff_eq] at h
  rw [isWord, if_pos (by omega), isAsciiWord]
  simp only [Bool.or_eq_true, Bool.and_eq_true, decide_eq_true_eq, beq_iff_eq]
  omega

def wideBlanks : List Nat :=
  [0x85, 0xA0, 0x1680, 0x2000, 0x2001, 0x2002, 0x2003, 0x2004, 0x2005, 0x2006, 0x2007, 0x2008, 0x2009,
    0x200A, 0x2028, 0x2029, 0x202F, 0x205F, 0x3000]

theorem wideBlanks_outside : ∀ n ∈ wideBlanks, inside wordBounds n = false := by decide +kernel

theorem isWord_of_isBlank {c : Char} (h : isBlank c = true) : isWord c = false := by
  simp only [isBlank, Bool.or_eq_true, Bool.and_eq_true, decide_eq_true_eq, beq_iff_eq] at h
  by_cases hc : c.toNat < 128
  · rw [isWord, if_pos hc, isAsciiWord]
    simp only [Bool.or_eq_false_iff, Bool.and_eq_false_iff, decide_eq_false_iff_not, beq_eq_false_iff_ne]
    omega
  · rw [isWord, if_neg hc]
    apply wideBlanks_outside
    simp only [wideBlanks, List.mem_cons, List.not_mem_nil, or_false]
    omega

theorem ne_of_class {p : Char → Bool} {c d : Char} (hc : p c = true) (hd : p d = false) : c ≠ d := by
  rintro rfl
  rw [hc] at hd
  cases hd

def Stops (p : Char → Bool) (s : List Char) : Prop := ∀ c ∈ s.head?, p c = false

@[simp] theorem stops_nil {p : Char → Bool} : Stops p [] := by simp [Stops]

@[simp] theorem stops_cons {p : Char → Bool} {c : Char} {s : List Char} : Stops p (c :: s) ↔ p c = false := by
  simp [Stops]

theorem Stops.append {p : Char → Bool} {u : List Char} (h : Stops p u) (hne : u ≠ []) (v : List Char) :
    Stops p (u ++ v) := by
  obtain ⟨c, u, rfl⟩ := List.exists_cons_of_ne_nil hne
  exact stops_cons.2 (stops_cons.1 h)

theorem Stops.left {p : Char → Bool} {u v : List Char} (h : Stops p (u ++ v)) : Stops p u := by
  cases u with
  | nil => exact stops_nil
  | cons c u => exact stops_cons.2 (stops_cons.1 h)

theorem stops_dropWhile (p : Char → Bool) (s : List Char) : Stops p (s.dropWhile p) := by
  intro c hc
  have := List.head?_dropWhile_not p s
  rw [Option.mem_def.1 hc] at this
  simpa using this

theorem takeWhile_append_stop {p : Char → Bool} {w s : List Char} (hw : ∀ c ∈ w, p c = true)
    (hs : Stops p s) : (w ++ s).takeWhile p = w := by
  rw [List.takeWhile_append_of_pos hw]
  cases s with
  | nil => simp
  | cons c s => rw [List.takeWhile_cons_of_neg (by simp [stops_cons.1 hs]), List.append_nil]

theorem dropWhile_append_stop {p : Char → Bool} {w s : List Char} (hw : ∀ c ∈ w, p c = true)
    (hs : Stops p s) : (w ++ s).dropWhile p = s := by
  rw [List.dropWhile_append_of_pos hw]
  cases s with
  | nil => rfl
  | cons c s => rw [List.dropWhile_cons_of_neg (by simp [stops_cons.1 hs])]

theorem mem_takeWhile {p : Char → Bool} {s : List Char} {c : Char} (h : c ∈ s.takeWhile p) : p c = true := by
  have := List.all_takeWhile (p := p) (l := s)
  exact List.all_eq_true.1 this c h

theorem append_run_unique {p : Char → Bool} {u u' w w' : List Char} (hw : ∀ c ∈ w, p c = true)
    (hw' : ∀ c ∈ w', p c = true) (hu : Stops p u.reverse) (hu' : Stops p u'.reverse)
    (h : u ++ w = u' ++ w') : u = u' ∧ w = w' := by
  have hr : w.reverse ++ u.reverse = w'.reverse ++ u'.reverse := by
    simpa using congrArg List.reverse h
  have hrev : ∀ c ∈ w.reverse, p c = true := fun c hc => hw c (List.mem_reverse.1 hc)
  have hrev' : ∀ c ∈ w'.reverse, p c = true := fun c hc => hw' c (List.mem_reverse.1 hc)
  have hrun : w.reverse = w'.reverse := by
    rw [← takeWhile_append_stop hrev hu, hr, takeWhile_append_stop hrev' hu']
  rw [hrun] at hr
  exact ⟨List.reverse_inj.1 (List.append_cancel_left hr), List.reverse_inj.1 hrun⟩

theorem stops_reverse_concat {p : Char → Bool} {u : List Char} {x : Char} :
    Stops p (u ++ [x]).reverse ↔ p x = false := by
  rw [List.reverse_concat, stops_cons]

theorem append_run_inj {p : Char → Bool} {u u' w w' : List Char} {x x' : Char}
    (hw : ∀ c ∈ w, p c = true) (hw' : ∀ c ∈ w', p c = true) (hx : p x = false) (hx' : p x' = false)
    (h : u ++ x :: w = u' ++ x' :: w') : u = u' ∧ x = x' ∧ w = w' := by
  rw [List.append_cons, List.append_cons u'] at h
  obtain ⟨hu, rfl⟩ := append_run_unique hw hw' (stops_reverse_concat.2 hx) (stops_reverse_concat.2 hx') h
  obtain ⟨rfl, hxx⟩ := List.append_inj' hu rfl
  exact ⟨rfl, (List.cons.inj hxx).1, rfl⟩

theorem dropWhile_eq_self {p : Char → Bool} {s : List Char} (h : s.length ≤ (s.dropWhile p).length) :
    s.dropWhile p = s :=
  (List.dropWhile_sublist p).eq_of_length (Nat.le_antisymm (List.dropWhile_sublist p).length_le h)

theorem stops_of_trim {s : List Char} (h : trim s = s) : Stops isBlank s ∧ Stops isBlank s.reverse := by
  have hlen := congrArg List.length h
  rw [trim, stripEnds, List.length_reverse] at hlen
  have hleft : s.dropWhile isBlank = s := by
    apply dropWhile_eq_self
    have := (List.dropWhile_sublist isBlank (l := (s.dropWhile isBlank).reverse)).length_le
    rw [List.length_reverse] at this
    omega
  rw [hleft] at hlen
  have hright : s.reverse.dropWhile isBlank = s.reverse := by
    apply dropWhile_eq_self
    exact Nat.le_of_eq (List.length_reverse.trans hlen.symm)
  constructor
  · rw [← hleft]
    exact stops_dropWhile isBlank s
  · rw [← hright]
    exact stops_dropWhile isBlank s.reverse

theorem dropWhile_of_stops {p : Char → Bool} {s : List Char} (h : Stops p s) : s.dropWhile p = s :=
  dropWhile_append_stop (w := []) (by simp) h

theorem stripEnds_append {p : Char → Bool} {a s b : List Char} (ha : ∀ c ∈ a, p c = true)
    (hb : ∀ c ∈ b, p c = true) (hne : s ≠ []) (hl : Stops p s) (hr : Stops p s.reverse) :
    stripEnds p (a ++ (s ++ b)) = s := by
  have hb' : ∀ c ∈ b.reverse, p c = true := fun c hc => hb c (List.mem_reverse.1 hc)
  rw [stripEnds, dropWhile_append_stop ha (hl.append hne b), List.reverse_append,
    dropWhile_append_stop hb' hr, List.reverse_reverse]

theorem stripEnds_of_all {p : Char → Bool} {s : List Char} (h : ∀ c ∈ s, p c = true) :
    stripEnds p s = [] := by
  have hdrop : s.dropWhile p = [] := by
    rw [← List.append_nil s]
    exact dropWhile_append_stop h stops_nil
  rw [stripEnds, hdrop]
  rfl

theorem stripEnds_split (p : Char → Bool) (s : List Char) :
    ∃ a b, (∀ c ∈ a, p c = true) ∧ (∀ c ∈ b, p c = true) ∧ s = a ++ (stripEnds p s ++ b) := by
  refine ⟨s.takeWhile p, ((s.dropWhile p).reverse.takeWhile p).reverse, fun _ hc => mem_takeWhile hc,
    fun c hc => mem_takeWhile (List.mem_reverse.1 hc), ?_⟩
  rw [stripEnds, ← List.reverse_append, List.takeWhile_append_dropWhile, List.reverse_reverse,
    List.takeWhile_append_dropWhile]

theorem stops_stripEnds (p : Char → Bool) (s : List Char) :
    Stops p (stripEnds p s) ∧ Stops p (stripEnds p s).reverse := by
  have hrev : (stripEnds p s).reverse = (s.dropWhile p).reverse.dropWhile p := List.reverse_reverse _
  constructor
  · have hs : s.dropWhile p = stripEnds p s ++ ((s.dropWhile p).reverse.takeWhile p).reverse := by
      rw [stripEnds, ← List.reverse_append, List.takeWhile_append_dropWhile, List.reverse_reverse]
    have hstart : Stops p (stripEnds p s ++ ((s.dropWhile p).reverse.takeWhile p).reverse) :=
      hs ▸ stops_dropWhile p s
    exact hstart.left
  · rw [hrev]
    exact stops_dropWhile p _

/-- What is left of a text without the characters of a class around it. -/
structure Stripped (P : Char → Prop) (s t : List Char) : Prop where
  around : ∃ a b, (∀ c ∈ a, P c) ∧ (∀ c ∈ b, P c) ∧ s = a ++ (t ++ b)
  first : ∀ c ∈ t.head?, ¬P c
  last : ∀ c ∈ t.getLast?, ¬P c

theorem stripped_iff {p : Char → Bool} {s t : List Char} :
    Stripped (fun c => p c = true) s t ↔ t = stripEnds p s := by
  have hstops : ∀ u : List Char, Stops p u ↔ ∀ c ∈ u.head?, ¬p c = true := fun u => by
    simp only [Stops, Bool.not_eq_true]
  constructor
  · rintro ⟨⟨a, b, ha, hb, rfl⟩, hfirst, hlast⟩
    by_cases hne : t = []
    · subst hne
      refine (stripEnds_of_all fun c hc => ?_).symm
      exact (List.mem_append.1 hc).elim (ha c) (hb c)
    · refine (stripEnds_append ha hb hne ((hstops t).2 hfirst) ((hstops _).2 ?_)).symm
      rwa [List.head?_reverse]
  · rintro rfl
    obtain ⟨hl, hr⟩ := stops_stripEnds p s
    refine ⟨stripEnds_split p s, (hstops _).1 hl, ?_⟩
    have hlast := (hstops _).1 hr
    rwa [List.head?_reverse] at hlast

theorem trim_eq_self {s : List Char} (hl : Stops isBlank s) (hr : Stops isBlank s.reverse) : trim s = s := by
  rw [trim, stripEnds, dropWhile_of_stops hl, dropWhile_of_stops hr, List.reverse_reverse]

def Blank (s : List Char) : Prop := ∀ c ∈ s, isBlank c = true

theorem dropBlanks_append {b s : List Char} (hb : Blank b) (hs : Stops isBlank s) :
    dropBlanks (b ++ s) = s := dropWhile_append_stop hb hs

theorem Blank.stops {b : List Char} (hb : Blank b) {s : List Char} (hs : Stops isWord s) :
    Stops isWord (b ++ s) := by
  cases b with
  | nil => exact hs
  | cons c b => exact stops_cons.2 (isWord_of_isBlank (hb c List.mem_cons_self))

theorem trim_blank {b : List Char} (hb : Blank b) : trim b = [] := stripEnds_of_all hb

@[simp] theorem dropBlanks_dropBlanks (s : List Char) : dropBlanks (dropBlanks s) = dropBlanks s :=
  dropWhile_of_stops (stops_dropWhile isBlank s)

theorem trim_append {a s b : List Char} (ha : Blank a) (hb : Blank b) (hne : s ≠ [])
    (hl : Stops isBlank s) (hr : Stops isBlank s.reverse) : trim (a ++ (s ++ b)) = s :=
  stripEnds_append ha hb hne hl hr

theorem trim_append_blank (s : List Char) {b : List Char} (hb : Blank b) : trim (s ++ b) = trim s := by
  have hrev : ∀ c ∈ b.reverse, isBlank c = true := fun c hc => hb c (List.mem_reverse.1 hc)
  rw [trim, trim, stripEnds, stripEnds, List.dropWhile_append]
  split
  · next h =>
    rw [List.isEmpty_iff.1 h, ← List.append_nil b, dropWhile_append_stop hb stops_nil]
  · rw [List.reverse_append, List.dropWhile_append_of_pos hrev]

theorem dropBlanks_split (s : List Char) : ∃ b, Blank b ∧ s = b ++ dropBlanks s :=
  ⟨s.takeWhile isBlank, fun _ hc => mem_takeWhile hc, List.takeWhile_append_dropWhile.symm⟩

theorem trim_split (s : List Char) : ∃ a b, Blank a ∧ Blank b ∧ s = a ++ (trim s ++ b) :=
  stripEnds_split isBlank s

theorem stops_trim (s : List Char) : Stops isBlank (trim s) ∧ Stops isBlank (trim s).reverse :=
  stops_stripEnds isBlank s

@[simp] theorem trim_trim (s : List Char) : trim (trim s) = trim s := trim_eq_self (stops_trim s).1 (stops_trim s).2

theorem trim_ne_nil {s : List Char} (hne : s ≠ []) (hs : Stops isBlank s) : trim s ≠ [] := by
  intro ht
  obtain ⟨a, b, ha, hb, hsplit⟩ := trim_split s
  obtain ⟨c, t, rfl⟩ := List.exists_cons_of_ne_nil hne
  have hc : c ∈ a ++ (trim (c :: t) ++ b) := by
    rw [← hsplit]
    exact List.mem_cons_self
  rw [ht, List.nil_append] at hc
  have hblank := (List.mem_append.1 hc).elim (ha c) (hb c)
  rw [stops_cons.1 hs] at hblank
  cases hblank

theorem not_blank_of_stops {s : List Char} (hne : s ≠ []) (h : Stops isBlank s.reverse) : ¬Blank s := by
  intro hb
  have hlast := h (s.getLast hne) (by rw [List.head?_reverse, List.getLast?_eq_some_getLast hne]; rfl)
  rw [hb _ (List.getLast_mem hne)] at hlast
  cases hlast

end Stencil.Text
