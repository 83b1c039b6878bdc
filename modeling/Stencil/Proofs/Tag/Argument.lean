import Stencil.Proofs.Text.Class
import Stencil.Tag.Argument
/-!
# Complete arguments

A text that a closing parenthesis ends as an argument is read to its end wherever it stands, and what
follows it is read as if it stood alone.
-/

namespace Stencil.Tag

open Text

theorem closeArgument?_split {depth : Nat} {quote : Option Char} {s raw rest : List Char}
    (h : closeArgument? depth quote s = some (raw, rest)) : s = raw ++ ')' :: rest := by
  fun_induction closeArgument? depth quote s generalizing raw with
  | case1 => cases h
  | case6 =>
    obtain ⟨rfl, rfl⟩ := Prod.mk.inj (Option.some.inj h)
    simp_all
  | _ =>
    rename_i ih
    obtain ⟨⟨raw', rest'⟩, hr, heq⟩ := Option.map_eq_some_iff.1 h
    obtain ⟨rfl, rfl⟩ := Prod.mk.inj heq
    rw [ih hr]
    rfl

def Closing (depth : Nat) (quote : Option Char) (s : List Char) : Prop :=
  closeArgument? depth quote (s ++ [')']) = some (s, [])

theorem map_cons_eq_some {o : Option (List Char × List Char)} {c : Char} {s rest : List Char} :
    (o.map fun (raw, after) => (c :: raw, after)) = some (c :: s, rest) ↔ o = some (s, rest) := by
  cases o with
  | none => simp
  | some pair => simp [Prod.ext_iff]

theorem exists_of_map_cons {o : Option (List Char × List Char)} {c : Char} {s rest : List Char}
    (h : (o.map fun (raw, after) => (c :: raw, after)) = some (s, rest)) :
    ∃ raw, s = c :: raw ∧ o = some (raw, rest) := by
  obtain ⟨⟨raw, after⟩, ho, heq⟩ := Option.map_eq_some_iff.1 h
  obtain ⟨rfl, rfl⟩ := Prod.mk.inj heq
  exact ⟨raw, rfl, ho⟩

theorem map_append_cons (o : Option (List Char × List Char)) (c : Char) (s : List Char) :
    ((o.map fun (raw, rest) => (s ++ raw, rest)).map fun (raw, after) => (c :: raw, after)) =
      o.map fun (raw, rest) => (c :: s ++ raw, rest) := by
  cases o <;> rfl

theorem closeArgument?_inside {depth : Nat} {q c : Char} (hc : c ≠ '\\') (rest : List Char) :
    closeArgument? depth (some q) (c :: rest) =
      (closeArgument? depth (if c = q then none else some q) rest).map
        fun (raw, after) => (c :: raw, after) := by
  rw [closeArgument?]
  intro c' rest' h
  exact absurd h hc

theorem closeArgument?_quote {c : Char} (hq : isQuote c = true) (depth : Nat) (rest : List Char) :
    closeArgument? depth none (c :: rest) =
      (closeArgument? depth (some c) rest).map fun (raw, after) => (c :: raw, after) := by
  cases depth <;> rw [closeArgument?, if_pos hq]

theorem closeArgument?_open (depth : Nat) (rest : List Char) :
    closeArgument? depth none ('(' :: rest) =
      (closeArgument? (depth + 1) none rest).map fun (raw, after) => ('(' :: raw, after) := by
  cases depth <;> rfl

def isPlain (c : Char) : Bool := !isQuote c && c != '(' && c != ')'

theorem isPlain_of_class {p : Char → Bool} {c : Char} (hc : p c = true)
    (h : p '\'' = false ∧ p '"' = false ∧ p '(' = false ∧ p ')' = false) : isPlain c = true := by
  obtain ⟨hsingle, hdouble, hopen, hclose⟩ := h
  simp only [isPlain, isQuote, Bool.and_eq_true, Bool.not_eq_true', Bool.or_eq_false_iff,
    beq_eq_false_iff_ne, bne_iff_ne]
  exact ⟨⟨⟨ne_of_class hc hsingle, ne_of_class hc hdouble⟩, ne_of_class hc hopen⟩, ne_of_class hc hclose⟩

theorem isPlain_of_isBlank {c : Char} (h : isBlank c = true) : isPlain c = true :=
  isPlain_of_class h (by decide)

theorem isPlain_of_blank {b : List Char} (h : Blank b) : ∀ c ∈ b, isPlain c = true :=
  fun c hc => isPlain_of_isBlank (h c hc)

theorem closeArgument?_plain {c : Char} (hc : isPlain c = true) (depth : Nat) (rest : List Char) :
    closeArgument? depth none (c :: rest) =
      (closeArgument? depth none rest).map fun (raw, after) => (c :: raw, after) := by
  simp only [isPlain, Bool.and_eq_true, Bool.not_eq_true', bne_iff_ne] at hc
  obtain ⟨⟨hq, ho⟩, hp⟩ := hc
  cases depth <;> rw [closeArgument?, if_neg (by simp [hq]), if_neg ho, if_neg hp]

theorem Closing.append {depth : Nat} {quote : Option Char} {s : List Char} (h : Closing depth quote s)
    (t : List Char) :
    closeArgument? depth quote (s ++ t) =
      (closeArgument? 0 none t).map fun (raw, rest) => (s ++ raw, rest) := by
  unfold Closing at h
  fun_induction closeArgument? depth quote s with
  | case1 depth quote =>
    cases quote with
    | some q => simp [closeArgument?] at h
    | none =>
      cases depth with
      | succ depth => simp [closeArgument?, isQuote] at h
      | zero => simp
  | case2 depth q c rest ih =>
    simp only [List.cons_append, closeArgument?] at h ⊢
    have hin : closeArgument? depth (some q) (rest ++ [')']) = some (rest, []) := by
      simpa [Prod.ext_iff] using h
    rw [ih hin, Option.map_map]
    rfl
  | case3 depth q c rest hc ih =>
    by_cases hb : c = '\\'
    · obtain rfl : rest = [] := by
        cases rest with
        | nil => rfl
        | cons c' rest' => exact (hc c' rest' hb rfl).elim
      simp [hb, closeArgument?] at h
    · rw [List.cons_append, closeArgument?_inside hb] at h ⊢
      rw [ih (map_cons_eq_some.1 h), map_append_cons]
  | case4 depth c rest hq ih =>
    rw [List.cons_append, closeArgument?_quote hq] at h ⊢
    rw [ih (map_cons_eq_some.1 h), map_append_cons]
  | case5 depth rest hq ih =>
    rw [List.cons_append, closeArgument?_open] at h ⊢
    rw [ih (map_cons_eq_some.1 h), map_append_cons]
  | case6 rest hq ho => simp [closeArgument?, isQuote] at h
  | case7 depth rest hq ho ih =>
    rw [List.cons_append, closeArgument?, if_neg hq, if_neg ho, if_pos rfl] at h ⊢
    rw [ih (map_cons_eq_some.1 h), map_append_cons]
  | case8 depth c rest hq ho hc ih =>
    have hplain : isPlain c = true := by simp [isPlain, hq, ho, hc]
    rw [List.cons_append, closeArgument?_plain hplain] at h ⊢
    rw [ih (map_cons_eq_some.1 h), map_append_cons]

theorem closeArgument?_run {w : List Char} (hw : ∀ c ∈ w, isPlain c = true) (depth : Nat) (t : List Char) :
    closeArgument? depth none (w ++ t) =
      (closeArgument? depth none t).map fun (raw, rest) => (w ++ raw, rest) := by
  induction w with
  | nil => simp
  | cons c w ih =>
    obtain ⟨hc, hw⟩ := List.forall_mem_cons.1 hw
    rw [List.cons_append, closeArgument?_plain hc, ih hw, map_append_cons]

/-- A text that a closing parenthesis ends as an argument. -/
def Complete (s : List Char) : Prop := argument? (s ++ [')']) = some (trim s, [])

theorem Complete.closing {s : List Char} (h : Complete s) : Closing 0 none s := by
  obtain ⟨⟨raw, rest⟩, hr, heq⟩ := Option.map_eq_some_iff.1 h
  obtain ⟨-, rfl⟩ := Prod.mk.inj heq
  obtain rfl := List.append_cancel_right (closeArgument?_split hr)
  exact hr

/-- A complete argument is read up to the parenthesis after it, with more text before that if there is
some. -/
theorem Complete.argument? {s w : List Char} (h : Complete s) (hw : ∀ c ∈ w, isPlain c = true)
    (rest : List Char) : argument? (s ++ (w ++ ')' :: rest)) = some (trim (s ++ w), rest) := by
  have hclose : closeArgument? 0 none (')' :: rest) = some ([], rest) := rfl
  rw [Tag.argument?, h.closing.append, closeArgument?_run hw, hclose]
  simp

end Stencil.Tag
