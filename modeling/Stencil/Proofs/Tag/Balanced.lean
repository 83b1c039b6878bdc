import Stencil.Proofs.Tag.Argument
/-!
# Balanced arguments

An argument is a balanced text: plain characters, closed quotes and balanced texts in parentheses. The
reader of arguments counts the parentheses that are open, and ends at a closing parenthesis just when the
text before it is balanced.
-/

namespace Stencil.Tag

open Text

/-- What may stand between a quote and the next one like it: pairs of a backslash and any character, and
characters other than the backslash and that quote. -/
inductive QuotedBy (q : Char) : List Char → Prop where
  | nil : QuotedBy q []
  | pair {c : Char} {s : List Char} : QuotedBy q s → QuotedBy q ('\\' :: c :: s)
  | single {c : Char} {s : List Char} : c ≠ '\\' → c ≠ q → QuotedBy q s → QuotedBy q (c :: s)

/-- Plain characters, quoted stretches, and balanced texts in parentheses. -/
inductive Balanced : List Char → Prop where
  | nil : Balanced []
  | plain {c : Char} {s : List Char} : isPlain c = true → Balanced s → Balanced (c :: s)
  | quoted {q : Char} {inner s : List Char} : isQuote q = true → QuotedBy q inner → Balanced s →
      Balanced (q :: (inner ++ q :: s))
  | group {inner s : List Char} : Balanced inner → Balanced s → Balanced ('(' :: (inner ++ ')' :: s))

theorem closeArgument?_quotedBy {q : Char} {inner : List Char} (h : QuotedBy q inner) (hq : q ≠ '\\')
    (depth : Nat) (t : List Char) :
    closeArgument? depth (some q) (inner ++ q :: t) =
      (closeArgument? depth none t).map fun (raw, rest) => (inner ++ q :: raw, rest) := by
  induction h with
  | nil => rw [List.nil_append, closeArgument?_inside hq, if_pos rfl]; rfl
  | pair _ ih =>
    rw [List.cons_append, List.cons_append, closeArgument?, ih, Option.map_map]
    rfl
  | single hc hne _ ih =>
    rw [List.cons_append, closeArgument?_inside hc, if_neg hne, ih, Option.map_map]
    rfl

theorem not_backslash_of_isQuote {q : Char} (hq : isQuote q = true) : q ≠ '\\' := ne_of_class hq (by decide)

theorem Balanced.read {s : List Char} (h : Balanced s) (depth : Nat) (t : List Char) :
    closeArgument? depth none (s ++ t) =
      (closeArgument? depth none t).map fun (raw, rest) => (s ++ raw, rest) := by
  induction h generalizing depth t with
  | nil => simp
  | plain hc _ ih => rw [List.cons_append, closeArgument?_plain hc, ih, map_append_cons]
  | quoted hq hinner _ ih =>
    rw [List.cons_append, List.append_assoc, List.cons_append, closeArgument?_quote hq,
      closeArgument?_quotedBy hinner (not_backslash_of_isQuote hq), ih, Option.map_map, Option.map_map]
    cases closeArgument? depth none t <;> simp
  | group _ _ ihi ihs =>
    have hclose (u : List Char) : closeArgument? (depth + 1) none (')' :: u) =
        (closeArgument? depth none u).map fun (raw, after) => (')' :: raw, after) := rfl
    rw [List.cons_append, List.append_assoc, List.cons_append, closeArgument?_open, ihi, hclose, ihs]
    cases closeArgument? depth none t <;> simp

/-- Balanced texts with a closing parenthesis between each two, so that `depth` parentheses are closed. -/
inductive ClosesAll : (depth : Nat) → List Char → Prop where
  | none {s : List Char} : Balanced s → ClosesAll 0 s
  | one {depth : Nat} {s t : List Char} : Balanced s → ClosesAll depth t → ClosesAll (depth + 1) (s ++ ')' :: t)

theorem ClosesAll.prepend {p : List Char} (hp : ∀ s, Balanced s → Balanced (p ++ s)) {depth : Nat}
    {s : List Char} (h : ClosesAll depth s) : ClosesAll depth (p ++ s) := by
  cases h with
  | none hs => exact .none (hp _ hs)
  | one hs ht =>
    rw [← List.append_assoc]
    exact .one (hp _ hs) ht

theorem ClosesAll.split {depth : Nat} {s : List Char} (h : ClosesAll (depth + 1) s) :
    ∃ inner t, s = inner ++ ')' :: t ∧ Balanced inner ∧ ClosesAll depth t := by
  cases h with
  | one hs ht => exact ⟨_, _, rfl, hs, ht⟩

def ClosesFrom (depth : Nat) : Option Char → List Char → Prop
  | none, s => ClosesAll depth s
  | some q, s => ∃ inner t, s = inner ++ q :: t ∧ QuotedBy q inner ∧ ClosesAll depth t

theorem closesFrom_of_closeArgument? {depth : Nat} {quote : Option Char} {s raw rest : List Char}
    (h : closeArgument? depth quote s = some (raw, rest)) : ClosesFrom depth quote raw := by
  -- along the reader's own cases, where a closed quote or group goes before what is read after it
  fun_induction closeArgument? depth quote s generalizing raw with
  | case1 => cases h
  | case2 depth q c s ih =>
    obtain ⟨⟨raw', rest'⟩, hr, heq⟩ := Option.map_eq_some_iff.1 h
    obtain ⟨rfl, rfl⟩ := Prod.mk.inj heq
    obtain ⟨inner, t, rfl, hinner, ht⟩ := ih hr
    exact ⟨'\\' :: c :: inner, t, rfl, .pair hinner, ht⟩
  | case3 depth q c s hc ih =>
    obtain ⟨raw', rfl, hr⟩ := exists_of_map_cons h
    have hread := ih hr
    have hb : c ≠ '\\' := by
      intro hb
      cases s with
      | nil => cases hr
      | cons c' s => exact hc c' s hb rfl
    by_cases hq : c = q
    · rw [if_pos hq] at hread
      exact ⟨[], raw', by rw [hq, List.nil_append], .nil, hread⟩
    · rw [if_neg hq] at hread
      obtain ⟨inner, t, rfl, hinner, ht⟩ := hread
      exact ⟨c :: inner, t, rfl, .single hb hq hinner, ht⟩
  | case4 depth c s hq ih =>
    obtain ⟨raw', rfl, hr⟩ := exists_of_map_cons h
    obtain ⟨inner, t, rfl, hinner, ht⟩ := ih hr
    have hclosed : ClosesAll depth ((c :: (inner ++ [c])) ++ t) := ht.prepend fun u hu => by
      simpa using Balanced.quoted hq hinner hu
    show ClosesAll depth _
    simpa using hclosed
  | case5 depth s hq ih =>
    obtain ⟨raw', rfl, hr⟩ := exists_of_map_cons h
    obtain ⟨inner, t, rfl, hinner, ht⟩ := ClosesAll.split (ih hr)
    have hclosed : ClosesAll depth (('(' :: (inner ++ [')'])) ++ t) := ht.prepend fun u hu => by
      simpa using Balanced.group hinner hu
    show ClosesAll depth _
    simpa using hclosed
  | case6 s hq ho =>
    obtain ⟨rfl, rfl⟩ := Prod.mk.inj (Option.some.inj h)
    exact .none .nil
  | case7 depth s hq ho ih =>
    obtain ⟨raw', rfl, hr⟩ := exists_of_map_cons h
    exact .one .nil (ih hr)
  | case8 depth c s hq ho hc ih =>
    obtain ⟨raw', rfl, hr⟩ := exists_of_map_cons h
    have hplain : isPlain c = true := by simp [isPlain, hq, ho, hc]
    exact ClosesAll.prepend (p := [c]) (fun u hu => .plain hplain hu) (ih hr)

theorem closeArgument?_eq_some_iff {s raw rest : List Char} :
    closeArgument? 0 none s = some (raw, rest) ↔ Balanced raw ∧ s = raw ++ ')' :: rest := by
  constructor
  · intro h
    refine ⟨?_, closeArgument?_split h⟩
    cases closesFrom_of_closeArgument? h with
    | none hs => exact hs
  · rintro ⟨hraw, rfl⟩
    have hclose : closeArgument? 0 none (')' :: rest) = some ([], rest) := rfl
    rw [hraw.read, hclose, Option.map_some]
    simp

theorem complete_iff_balanced {s : List Char} : Complete s ↔ Balanced s := by
  constructor
  · intro h
    exact (closeArgument?_eq_some_iff.1 h.closing).1
  · intro h
    rw [Complete, argument?, closeArgument?_eq_some_iff.2 ⟨h, rfl⟩]
    rfl

theorem append_plain_cases {u s x p : List Char} {z : Char} (hz : isPlain z = false)
    (hp : ∀ c ∈ p, isPlain c = true) (h : u ++ z :: s = x ++ p) : ∃ y, x = u ++ z :: y ∧ s = y ++ p := by
  rcases List.append_eq_append_iff.1 h with ⟨y, hx, hs⟩ | ⟨y, hu, hpy⟩
  · cases y with
    | nil =>
      have := hp z (by rw [← List.nil_append p, ← hs]; exact List.mem_cons_self)
      rw [hz] at this
      cases this
    | cons c y =>
      obtain ⟨rfl, rfl⟩ := List.cons.inj hs
      exact ⟨y, hx, rfl⟩
  · have := hp z (by rw [hpy]; simp)
    rw [hz] at this
    cases this

theorem not_plain_of_isQuote {q : Char} (hq : isQuote q = true) : isPlain q = false := by
  simp [isPlain, hq]

theorem Balanced.of_append_plain {x p : List Char} (h : Balanced (x ++ p)) (hp : ∀ c ∈ p, isPlain c = true) :
    Balanced x := by
  -- the end of the text lies within what follows its last quoted stretch or group
  generalize hs : x ++ p = s at h
  induction h generalizing x with
  | nil =>
    rw [(List.append_eq_nil_iff.1 hs).1]
    exact .nil
  | @plain c s hc _ ih =>
    cases x with
    | nil => exact .nil
    | cons d x =>
      obtain ⟨rfl, hrest⟩ := List.cons.inj hs
      exact .plain hc (ih hrest)
  | @quoted q inner s hq hinner _ ih =>
    have hsplit : (q :: inner) ++ q :: s = x ++ p := hs.symm
    obtain ⟨y, rfl, hy⟩ := append_plain_cases (not_plain_of_isQuote hq) hp hsplit
    exact .quoted hq hinner (ih hy.symm)
  | @group inner s hinner _ _ ih =>
    have hsplit : ('(' :: inner) ++ ')' :: s = x ++ p := hs.symm
    obtain ⟨y, rfl, hy⟩ := append_plain_cases (by decide) hp hsplit
    exact .group hinner (ih hy.symm)

theorem Balanced.of_blank_append {b s : List Char} (hb : Blank b) (h : Balanced (b ++ s)) : Balanced s := by
  induction b with
  | nil => exact h
  | cons c b ih =>
    obtain ⟨hc, hb⟩ := List.forall_mem_cons.1 hb
    have hplain := isPlain_of_isBlank hc
    generalize hs : c :: b ++ s = w at h
    cases h with
    | nil => cases hs
    | plain _ ht =>
      obtain ⟨-, rfl⟩ := List.cons.inj hs
      exact ih hb ht
    | quoted hq =>
      rw [(List.cons.inj hs).1, not_plain_of_isQuote hq] at hplain
      cases hplain
    | group =>
      rw [(List.cons.inj hs).1] at hplain
      cases hplain

theorem Balanced.trim {s : List Char} (h : Balanced s) : Balanced (trim s) := by
  obtain ⟨a, b, ha, hb, hs⟩ := trim_split s
  rw [hs] at h
  exact (h.of_blank_append ha).of_append_plain (isPlain_of_blank hb)

/-- An argument with its closing parenthesis goes from one offset up to another: the text before that
parenthesis is balanced. -/
structure ArgumentEnds (text : List Char) (start stop : Nat) : Prop where
  nonempty : start < stop
  closing : text[stop - 1]? = some ')'
  balanced : Balanced (text.extract start (stop - 1))

theorem extract_middle (p a q : List Char) :
    (p ++ (a ++ q)).extract p.length (p.length + a.length) = a := by
  simp [List.extract_eq_take_drop]

theorem argumentEnds_iff {text : List Char} {start stop : Nat} :
    ArgumentEnds text start stop ↔ ∃ p a q, text = p ++ (a ++ ')' :: q) ∧ p.length = start ∧
      stop = start + a.length + 1 ∧ Balanced a := by
  constructor
  · rintro ⟨hlt, hc, hb⟩
    obtain ⟨hlen, hget⟩ := List.getElem?_eq_some_iff.1 hc
    have hrest : text.drop (stop - 1) = ')' :: text.drop (stop - 1 + 1) := by
      rw [List.drop_eq_getElem_cons hlen, hget]
    refine ⟨text.take start, text.extract start (stop - 1), text.drop (stop - 1 + 1), ?_, ?_, ?_, hb⟩
    · have hmiddle : text.drop (stop - 1) = (text.drop start).drop (stop - 1 - start) := by
        rw [List.drop_drop]
        congr 1
        omega
      rw [← hrest, hmiddle, List.extract_eq_take_drop, List.take_append_drop, List.take_append_drop]
    · rw [List.length_take]
      omega
    · rw [List.extract_eq_take_drop, List.length_take, List.length_drop]
      omega
  · rintro ⟨p, a, q, rfl, rfl, rfl, hb⟩
    refine ⟨by omega, by simp, ?_⟩
    rw [Nat.add_sub_cancel, extract_middle]
    exact hb

theorem argumentAt?_balanced (p : List Char) {a : List Char} (h : Balanced a) (q : List Char) :
    argumentAt? (p ++ (a ++ ')' :: q)) p.length = some (trim a, p.length + a.length + 1) := by
  rw [argumentAt?, List.drop_left, argument?, closeArgument?_eq_some_iff.2 ⟨h, rfl⟩]
  simp only [Option.map_some, List.length_append, List.length_cons, Option.some.injEq, Prod.mk.injEq, true_and]
  omega

theorem argumentAt?_eq_some_iff {text argument : List Char} {start stop : Nat} :
    argumentAt? text start = some (argument, stop) ↔
      ArgumentEnds text start stop ∧ argument = trim (text.extract start (stop - 1)) := by
  constructor
  · intro h
    obtain ⟨⟨argument', rest⟩, ha, hpair⟩ := Option.map_eq_some_iff.1 h
    obtain ⟨⟨raw, rest'⟩, hr, heq⟩ := Option.map_eq_some_iff.1 ha
    obtain ⟨rfl, rfl⟩ := Prod.mk.inj heq
    obtain ⟨rfl, rfl⟩ := Prod.mk.inj hpair
    obtain ⟨hraw, hdrop⟩ := closeArgument?_eq_some_iff.1 hr
    have htext : text = text.take start ++ (raw ++ ')' :: rest') := by
      rw [← hdrop, List.take_append_drop]
    have hlen := congrArg List.length hdrop
    simp only [List.length_drop, List.length_append, List.length_cons] at hlen
    have hstart : (text.take start).length = start := by
      rw [List.length_take]
      omega
    have hstop : text.length - rest'.length = start + raw.length + 1 := by omega
    rw [hstop]
    refine ⟨argumentEnds_iff.2 ⟨_, raw, rest', htext, hstart, rfl, hraw⟩, ?_⟩
    rw [Nat.add_sub_cancel, List.extract_eq_take_drop, hdrop, Nat.add_sub_cancel_left, List.take_left]
  · rintro ⟨hends, rfl⟩
    obtain ⟨p, a, q, rfl, rfl, rfl, ha⟩ := argumentEnds_iff.1 hends
    rw [argumentAt?_balanced p ha, Nat.add_sub_cancel, extract_middle]

/-- The argument at an offset ends just where a balanced text ends at a closing parenthesis, which is so for one
place at most; without such a place there is none. So a balanced text is read as an argument wherever it
stands. -/
theorem argument_iff_balanced (text : List Char) (start : Nat) :
    (∀ argument stop, argumentAt? text start = some (argument, stop) ↔
      ArgumentEnds text start stop ∧ argument = trim (text.extract start (stop - 1))) ∧
    (∀ stop stop', ArgumentEnds text start stop → ArgumentEnds text start stop' → stop = stop') ∧
    (argumentAt? text start = none ↔ ∀ stop, ¬ArgumentEnds text start stop) ∧
    ∀ p a q, Balanced a →
      argumentAt? (p ++ (a ++ ')' :: q)) p.length = some (trim a, p.length + a.length + 1) := by
  have hends {stop : Nat} (h : ArgumentEnds text start stop) :
      argumentAt? text start = some (trim (text.extract start (stop - 1)), stop) :=
    argumentAt?_eq_some_iff.2 ⟨h, rfl⟩
  refine ⟨fun _ _ => argumentAt?_eq_some_iff, ?_, ?_, fun p a q ha => argumentAt?_balanced p ha q⟩
  · intro stop stop' h h'
    have hsame := (hends h).symm.trans (hends h')
    exact (Prod.mk.inj (Option.some.inj hsame)).2
  · rw [Option.eq_none_iff_forall_ne_some]
    constructor
    · intro hnone stop h
      exact hnone _ (hends h)
    · rintro hno ⟨argument, stop⟩ h
      exact hno stop (argumentAt?_eq_some_iff.1 h).1

theorem argument_iff_balanced_sample :
    let a := "f('\\')') ".toList
    Balanced a ∧ argumentAt? ("@if(".toList ++ (a ++ ')' :: [')'])) 4 = some ("f('\\')')".toList, 14) := by
  intro a
  have ha : Balanced a := complete_iff_balanced.1 rfl
  obtain ⟨-, -, -, hread⟩ := argument_iff_balanced [] 0
  exact ⟨ha, hread "@if(".toList a [')'] ha⟩

end Stencil.Tag
