import Stencil.Proofs.Json.Grammar
/-!
# Numbers and strings that are written

What an integer or a string is written as belongs to the grammar, and no string holds a control character
when it is written.
-/

namespace Stencil.Number

theorem isAsciiDigit_digitChar {d : Nat} (h : d < 10) : isAsciiDigit (digitChar d) = true := by
  have : d = 0 ∨ d = 1 ∨ d = 2 ∨ d = 3 ∨ d = 4 ∨ d = 5 ∨ d = 6 ∨ d = 7 ∨ d = 8 ∨ d = 9 := by omega
  rcases this with h | h | h | h | h | h | h | h | h | h <;> subst h <;> rfl

theorem isAsciiDigit_of_mem_digitsBefore {n : Nat} {after : List Char}
    (h : ∀ c ∈ after, isAsciiDigit c = true) : ∀ c ∈ digitsBefore n after, isAsciiDigit c = true := by
  fun_induction digitsBefore n after with
  | case1 n after hn =>
    intro c hc
    rcases List.mem_cons.1 hc with rfl | hc
    · exact isAsciiDigit_digitChar hn
    · exact h c hc
  | case2 n after hn ih =>
    apply ih
    intro c hc
    rcases List.mem_cons.1 hc with rfl | hc
    · exact isAsciiDigit_digitChar (Nat.mod_lt n (by omega))
    · exact h c hc

theorem isAsciiDigit_of_mem_digits {n : Nat} {c : Char} (h : c ∈ digits n) : isAsciiDigit c = true :=
  isAsciiDigit_of_mem_digitsBefore (by simp) c h

theorem digitsBefore_eq_cons (n : Nat) (after : List Char) :
    ∃ d ds, digitsBefore n after = digitChar d :: ds ∧ d < 10 ∧ (0 < n → 0 < d) := by
  fun_induction digitsBefore n after with
  | case1 n after h => exact ⟨n, after, rfl, h, id⟩
  | case2 n after h ih =>
    obtain ⟨d, ds, hd, hlt, hpos⟩ := ih
    exact ⟨d, ds, hd, hlt, fun _ => hpos (by omega)⟩

theorem digits_eq_cons (n : Nat) :
    ∃ d ds, digits n = digitChar d :: ds ∧ d < 10 ∧ (0 < n → 0 < d) := digitsBefore_eq_cons n []

theorem length_digits_pow (k : Nat) : (digits (Nat.pow 10 k)).length = k + 1 := by
  have before (after : List Char) : (digitsBefore (Nat.pow 10 k) after).length = k + 1 + after.length := by
    induction k generalizing after with
    | zero =>
      rw [digitsBefore, if_pos (by decide), List.length_cons]
      omega
    | succ k ih =>
      have hpow : Nat.pow 10 (k + 1) = Nat.pow 10 k * 10 := rfl
      have hpos : 0 < Nat.pow 10 k := Nat.pow_pos (by decide)
      have hlarge : ¬Nat.pow 10 (k + 1) < 10 := by omega
      have hdiv : Nat.pow 10 (k + 1) / 10 = Nat.pow 10 k := by omega
      rw [digitsBefore, if_neg hlarge, hdiv, ih, List.length_cons]
      omega
  exact before []

end Stencil.Number

namespace Stencil.Json

open Text Number

theorem whole_digits (n : Nat) : Whole (digits n) := by
  have hall : Digits (digits n) := fun _ hc => isAsciiDigit_of_mem_digits hc
  obtain ⟨d, ds, hd, hlt, hpos⟩ := digits_eq_cons n
  by_cases hn : n = 0
  · subst hn
    have hzero : digits 0 = ['0'] := by simp [digits, digitsBefore, digitChar]
    rw [hzero]
    exact .zero
  · rw [hd] at hall ⊢
    refine .digits hall fun heq => ?_
    have hvalue := digitValue_digitChar hlt
    rw [heq] at hvalue
    have : d = 0 := hvalue.symm
    omega

theorem spells_signed {f : Form} {n : Int} (h : f.whole (digits n.natAbs)) {depth : Nat} :
    Spells f depth (.int n) (signed n) := by
  have hspells := @Spells.int f depth (decide (n < 0)) _ (whole_digits n.natAbs) h
  rw [ofDigits_digits] at hspells
  by_cases hn : n < 0
  · have habs : -(n.natAbs : Int) = n := by omega
    rw [decide_eq_true hn, if_pos rfl, habs] at hspells
    rw [signed, if_pos hn]
    exact hspells
  · have habs : (n.natAbs : Int) = n := by omega
    rw [decide_eq_false hn, if_neg Bool.false_ne_true, habs] at hspells
    rw [signed, if_neg hn]
    exact hspells

theorem hexValue?_hexDigit {d : Nat} (h : d < 16) : hexValue? (hexDigit d) = some d := by
  have : ∀ d, d < 16 → hexValue? (hexDigit d) = some d := by decide
  exact this d h

theorem hexFour?_hexDigits {n : Nat} (h : n < 65536) (rest : List Char) :
    hexFour? (hexDigits 4 n ++ rest) = some (n, rest) := by
  have hd (k : Nat) : hexValue? (hexDigit (k % 16)) = some (k % 16) :=
    hexValue?_hexDigit (Nat.mod_lt k (by omega))
  simp only [hexDigits, List.nil_append, List.cons_append, hexFour?, hd]
  simp only [Option.bind_eq_bind, Option.bind_some, Option.some.injEq, Prod.mk.injEq, and_true]
  omega

/-- A character is written by a letter, by its number or as itself. -/
inductive Escaped (c : Char) : List Char → Prop where
  | letter (x : Char) (h : escaped? x = some c) (hx : 32 ≤ x.toNat) : Escaped c ['\\', x]
  | number (h : c.toNat < 32) : Escaped c ('\\' :: 'u' :: hexDigits 4 c.toNat)
  | self (hq : c ≠ '"') (hs : c ≠ '\\') (h : 32 ≤ c.toNat) : Escaped c [c]

theorem escaped_escapeChar (c : Char) : Escaped c (escapeChar c) := by
  unfold escapeChar
  by_cases hq : c = '"'
  · subst hq; exact .letter '"' rfl (by decide)
  by_cases hs : c = '\\'
  · subst hs; exact .letter '\\' rfl (by decide)
  by_cases hn : c = '\n'
  · subst hn; exact .letter 'n' rfl (by decide)
  by_cases hr : c = '\r'
  · subst hr; exact .letter 'r' rfl (by decide)
  by_cases ht : c = '\t'
  · subst ht; exact .letter 't' rfl (by decide)
  by_cases hb : c = Char.ofNat 8
  · subst hb; exact .letter 'b' rfl (by decide)
  by_cases hf : c = Char.ofNat 12
  · subst hf; exact .letter 'f' rfl (by decide)
  simp only [hq, hs, hn, hr, ht, hb, hf, ↓reduceIte]
  by_cases h : c.toNat < 32
  · simp only [h, ↓reduceIte]
    exact .number h
  · simp only [h, ↓reduceIte]
    exact .self hq hs (Nat.not_lt.1 h)

theorem quoted_escapeChar (c : Char) {s t : List Char} (h : Quoted s t) :
    Quoted (c :: s) (escapeChar c ++ t) := by
  have hw := escaped_escapeChar c
  generalize escapeChar c = written at hw ⊢
  cases hw with
  | letter x hx => exact .letter hx h
  | number hc =>
    have hhex := hexFour?_hexDigits (n := c.toNat) (by omega) []
    rw [List.append_nil] at hhex
    have hquoted := Quoted.number hhex (by omega) (by omega) h
    rwa [Char.ofNat_toNat] at hquoted
  | self hq hs hc => exact .plain hq hs hc h

theorem quoted_escaped (s : List Char) : Quoted s (s.flatMap escapeChar) := by
  induction s with
  | nil => exact .nil
  | cons c s ih => exact quoted_escapeChar c ih

def Printable (s : List Char) : Prop := ∀ c ∈ s, 32 ≤ c.toNat

@[simp] theorem printable_append {s t : List Char} : Printable (s ++ t) ↔ Printable s ∧ Printable t :=
  List.forall_mem_append

@[simp] theorem printable_cons {c : Char} {s : List Char} :
    Printable (c :: s) ↔ 32 ≤ c.toNat ∧ Printable s := List.forall_mem_cons

theorem printable_hexDigits (width n : Nat) : Printable (hexDigits width n) := by
  have hdigit : ∀ d, d < 16 → 32 ≤ (hexDigit d).toNat := by decide
  induction width generalizing n with
  | zero => simp [hexDigits, Printable]
  | succ w ih =>
    rw [hexDigits, printable_append]
    refine ⟨ih _, ?_⟩
    intro c hc
    obtain rfl := List.mem_singleton.1 hc
    exact hdigit _ (Nat.mod_lt n (by omega))

theorem printable_escapeChar (c : Char) : Printable (escapeChar c) := by
  have hw := escaped_escapeChar c
  generalize escapeChar c = written at hw ⊢
  cases hw with
  | letter x _ hx => exact printable_cons.2 ⟨by decide, printable_cons.2 ⟨hx, by simp [Printable]⟩⟩
  | number => exact printable_cons.2 ⟨by decide, printable_cons.2 ⟨by decide, printable_hexDigits _ _⟩⟩
  | self _ _ h => exact printable_cons.2 ⟨h, by simp [Printable]⟩

theorem printable_writeString (s : String) : Printable (writeString s) := by
  rw [writeString, printable_cons, printable_append]
  refine ⟨by decide, ?_, by simp [Printable]⟩
  intro c hc
  obtain ⟨d, -, hd⟩ := List.mem_flatMap.1 hc
  exact printable_escapeChar d c hd

end Stencil.Json
