import Stencil.Expression.Sigil
import Stencil.Proofs.Tag.Argument
/-!
# Sigils outside quotes

The reader of an argument and the reader of sigils both go past quoted stretches. They agree on where these
end, unless a backslash stands before a line feed in one of them: then the sigils in it are dropped too.
-/

namespace Stencil.Expression

open Text Tag

/-- Where the reader of an argument stands: outside of quotes, inside a stretch that a quote opened, or
there after a backslash, which protects the next character. -/
inductive Quoting where
  | outside
  | inside (q : Char)
  | escaped (q : Char)
deriving Repr, DecidableEq

namespace Quoting

def next : Quoting → Char → Quoting
  | outside, c => if isQuote c then inside c else outside
  | inside q, c => if c = '\\' then escaped q else if c = q then outside else inside q
  | escaped q, _ => inside q

def after (z : Quoting) (s : List Char) : Quoting := s.foldl next z

def ofQuote : Option Char → Quoting
  | none => outside
  | some q => inside q

theorem after_cons (z : Quoting) (c : Char) (s : List Char) : z.after (c :: s) = (z.next c).after s := rfl

@[simp] theorem after_append (z : Quoting) (u v : List Char) : z.after (u ++ v) = (z.after u).after v :=
  List.foldl_append

theorem next_quote {c : Char} (hc : isQuote c = true) : outside.next c = inside c := by
  rw [next, if_pos hc]

theorem next_outside {c : Char} (hc : isQuote c = false) : outside.next c = outside := by
  rw [next, if_neg (by simp [hc])]

theorem next_inside {c : Char} (hc : c ≠ '\\') (q : Char) :
    (inside q).next c = ofQuote (if c = q then none else some q) := by
  rw [next, if_neg hc]
  split <;> rfl

def Opened : Quoting → Prop
  | outside => True
  | inside q | escaped q => isQuote q = true

theorem Opened.next {z : Quoting} (h : z.Opened) (c : Char) : (z.next c).Opened := by
  cases z with
  | outside =>
    rw [Quoting.next]
    split
    · next hc => exact hc
    · trivial
  | inside q =>
    rw [Quoting.next]
    split
    · exact h
    · split
      · trivial
      · exact h
  | escaped q => exact h

theorem Opened.after {z : Quoting} (h : z.Opened) (s : List Char) : (z.after s).Opened := by
  induction s generalizing z with
  | nil => exact h
  | cons c s ih => exact ih (h.next c)

theorem isQuote_of_isBlank {c : Char} (h : isBlank c = true) : isQuote c = false := by
  rw [isQuote, Bool.or_eq_false_iff, beq_eq_false_iff_ne, beq_eq_false_iff_ne]
  exact ⟨ne_of_class h (by decide), ne_of_class h (by decide)⟩

theorem after_blank {b : List Char} (hb : Blank b) : outside.after b = outside := by
  induction b with
  | nil => rfl
  | cons c b ih =>
    obtain ⟨hc, hb⟩ := List.forall_mem_cons.1 hb
    rw [after_cons, next_outside (isQuote_of_isBlank hc)]
    exact ih hb

theorem inside_after_blank {q : Char} (hq : isQuote q = true) {b : List Char} (hb : Blank b) :
    (inside q).after b = inside q := by
  induction b with
  | nil => rfl
  | cons c b ih =>
    obtain ⟨hc, hb⟩ := List.forall_mem_cons.1 hb
    have hne : c ≠ q := (ne_of_class hq (isQuote_of_isBlank hc)).symm
    rw [after_cons, next_inside (ne_of_class hc (by decide)), if_neg hne]
    exact ih hb

theorem eq_outside_of_after_blank {z : Quoting} (hz : z.Opened) {b : List Char} (hb : Blank b)
    (h : z.after b = outside) : z = outside := by
  cases z with
  | outside => rfl
  | inside q =>
    rw [inside_after_blank hz hb] at h
    cases h
  | escaped q =>
    cases b with
    | nil => cases h
    | cons c b =>
      have hinside : (inside q).after b = outside := h
      rw [inside_after_blank hz (List.forall_mem_cons.1 hb).2] at hinside
      cases hinside

end Quoting

theorem closeArgument?_after {depth : Nat} {quote : Option Char} {s raw rest : List Char}
    (h : closeArgument? depth quote s = some (raw, rest)) :
    (Quoting.ofQuote quote).after raw = .outside := by
  -- the reader takes a protected pair at once, and otherwise one character at a time
  fun_induction closeArgument? depth quote s generalizing raw with
  | case1 => cases h
  | case2 depth q c s ih =>
    obtain ⟨⟨raw', rest'⟩, hr, heq⟩ := Option.map_eq_some_iff.1 h
    obtain ⟨rfl, rfl⟩ := Prod.mk.inj heq
    exact (ih hr :)
  | case3 depth q c s hc ih =>
    obtain ⟨raw', rfl, hr⟩ := exists_of_map_cons h
    have hb : c ≠ '\\' := by
      intro hb
      cases s with
      | nil => cases hr
      | cons c' s => exact hc c' s hb rfl
    rw [Quoting.ofQuote, Quoting.after_cons, Quoting.next_inside hb]
    exact ih hr
  | case4 depth c s hq ih =>
    obtain ⟨raw', rfl, hr⟩ := exists_of_map_cons h
    rw [Quoting.ofQuote, Quoting.after_cons, Quoting.next, if_pos hq]
    exact ih hr
  | case5 depth s hq ih | case7 depth s hq ho ih =>
    obtain ⟨raw', rfl, hr⟩ := exists_of_map_cons h
    exact (ih hr :)
  | case6 s hq ho =>
    obtain ⟨rfl, rfl⟩ := Prod.mk.inj (Option.some.inj h)
    rfl
  | case8 depth c s hq ho hc ih =>
    obtain ⟨raw', rfl, hr⟩ := exists_of_map_cons h
    rw [Quoting.ofQuote, Quoting.after_cons, Quoting.next_outside (by simpa using hq)]
    exact ih hr

theorem argument?_after {s a rest : List Char} (h : argument? s = some (a, rest)) :
    Quoting.outside.after a = .outside := by
  obtain ⟨⟨raw, after⟩, hr, heq⟩ := Option.map_eq_some_iff.1 h
  obtain ⟨rfl, rfl⟩ := Prod.mk.inj heq
  obtain ⟨b₀, b, hb₀, hb, hsplit⟩ := trim_split raw
  have hraw : Quoting.outside.after raw = .outside := closeArgument?_after hr
  rw [hsplit, Quoting.after_append, Quoting.after_blank hb₀, Quoting.after_append] at hraw
  have hopened : (Quoting.outside.after (trim raw)).Opened := Quoting.Opened.after (z := .outside) trivial _
  exact Quoting.eq_outside_of_after_blank hopened hb hraw

def isSigil (s : List Char) (i : Nat) : Bool :=
  Quoting.outside.after (s.take i) == .outside && s[i]? == some '$' && startsName (s.drop (i + 1))

/-- All characters of a text but the sigils, in order. -/
def withoutSigils (s : List Char) : List Char := (s.zipIdx.filter fun p => !isSigil s p.2).map (·.1)

def dropSigils (z : Quoting) : List Char → List Char
  | [] => []
  | c :: rest =>
    if z == .outside && c == '$' && startsName rest then dropSigils (z.next c) rest
    else c :: dropSigils (z.next c) rest

theorem withoutSigils_from (front s : List Char) :
    ((s.zipIdx front.length).filter fun p => !isSigil (front ++ s) p.2).map (·.1) =
      dropSigils (Quoting.outside.after front) s := by
  induction s generalizing front with
  | nil => rfl
  | cons c s ih =>
    have hrest := ih (front ++ [c])
    rw [List.append_assoc, Quoting.after_append, List.length_append] at hrest
    change _ = dropSigils ((Quoting.outside.after front).next c) s at hrest
    have hhere : isSigil (front ++ c :: s) front.length =
        (Quoting.outside.after front == .outside && c == '$' && startsName s) := by
      simp [isSigil]
    rw [List.zipIdx_cons, List.filter_cons, hhere, dropSigils, ← hrest]
    cases Quoting.outside.after front == .outside && c == '$' && startsName s <;> rfl

/-- No line feed stands directly after a backslash in a quoted stretch. -/
def Unbroken (z : Quoting) (s : List Char) : Prop :=
  ∀ u v, s = u ++ '\n' :: v → ∀ q, z.after u ≠ .escaped q

theorem Unbroken.append {z : Quoting} {u v : List Char} (h : Unbroken z (u ++ v)) : Unbroken (z.after u) v := by
  intro x y hv q
  rw [← Quoting.after_append]
  exact h (u ++ x) y (by rw [hv, List.append_assoc]) q

theorem Unbroken.next {z z' : Quoting} {c : Char} {s : List Char} (h : Unbroken z (c :: s))
    (hz : z.next c = z') : Unbroken z' s := by
  subst hz
  exact Unbroken.append (u := [c]) h

theorem dropSigils_of_ne {c : Char} (hc : c ≠ '$') (z : Quoting) (s : List Char) :
    dropSigils z (c :: s) = c :: dropSigils (z.next c) s := by
  simp [dropSigils, hc]

theorem dropSigils_quoted {z : Quoting} (hz : z ≠ .outside) (c : Char) (s : List Char) :
    dropSigils z (c :: s) = c :: dropSigils (z.next c) s := by
  simp [dropSigils, hz]

theorem not_backslash {c : Char} {rest : List Char} (hend : c = '\\' → rest = [] → False)
    (hpair : ∀ (c' : Char) (rest' : List Char), c = '\\' → rest = c' :: rest' → False) : c ≠ '\\' := by
  intro hb
  cases rest with
  | nil => exact hend hb rfl
  | cons c' rest' => exact hpair c' rest' hb rfl

theorem closeQuote?_of_after {q : Char} {s : List Char} (hs : (Quoting.inside q).after s = .outside)
    (hu : Unbroken (.inside q) s) :
    ∃ body after, closeQuote? q s = some (body, after) ∧ s = body ++ after ∧
      (Quoting.inside q).after body = .outside ∧
      dropSigils (.inside q) s = body ++ dropSigils .outside after := by
  fun_induction closeQuote? q s with
  | case1 => cases hs
  | case2 => cases hs
  | case3 rest => exact absurd rfl (hu ['\\'] rest rfl q)
  | case4 c rest hc ih =>
    have hrest : Unbroken (.inside q) rest := Unbroken.append (u := ['\\', c]) hu
    obtain ⟨body, after, hclose, hsplit, hbody, hdrop⟩ := ih hs hrest
    refine ⟨'\\' :: c :: body, after, ?_, ?_, hbody, ?_⟩
    · rw [hclose]
      rfl
    · rw [hsplit]
      rfl
    · have hpair : dropSigils (.inside q) ('\\' :: c :: rest) = '\\' :: dropSigils (.escaped q) (c :: rest) :=
        dropSigils_quoted (z := .inside q) (by simp) _ _
      have hescaped : dropSigils (.escaped q) (c :: rest) = c :: dropSigils (.inside q) rest :=
        dropSigils_quoted (z := .escaped q) (by simp) _ _
      rw [hpair, hescaped, hdrop]
      rfl
  | case5 rest hend hpair =>
    have hb : q ≠ '\\' := not_backslash hend hpair
    have hnext : (Quoting.inside q).next q = .outside := by rw [Quoting.next_inside hb, if_pos rfl]; rfl
    refine ⟨[q], rest, rfl, rfl, hnext, ?_⟩
    rw [dropSigils_quoted (z := .inside q) (by simp), hnext]
    rfl
  | case6 c rest hend hpair hc ih =>
    have hb : c ≠ '\\' := not_backslash hend hpair
    have hnext : (Quoting.inside q).next c = .inside q := by rw [Quoting.next_inside hb, if_neg hc]; rfl
    rw [Quoting.after_cons, hnext] at hs
    obtain ⟨body, after, hclose, hsplit, hbody, hdrop⟩ := ih hs (hu.next hnext)
    refine ⟨c :: body, after, ?_, ?_, ?_, ?_⟩
    · rw [hclose]
      rfl
    · rw [hsplit]
      rfl
    · rw [Quoting.after_cons, hnext]
      exact hbody
    · rw [dropSigils_quoted (z := .inside q) (by simp), hnext, hdrop]
      rfl

theorem stripSigils_unclosed {q : Char} (hq : isQuote q = true) {rest : List Char}
    (h : closeQuote? q rest = none) : stripSigils (q :: rest) = q :: stripSigils rest := by
  have hquote : q = '\'' ∨ q = '"' := by simpa [isQuote] using hq
  rw [stripSigils, if_pos (by simpa using hquote)]
  split
  · next h' => cases h.symm.trans h'
  · rfl

/-- The reader of sigils drops the sigils and nothing else, where it goes past each quoted stretch at once. -/
theorem stripSigils_eq {s : List Char} (hs : Quoting.outside.after s = .outside) (hu : Unbroken .outside s) :
    stripSigils s = dropSigils .outside s := by
  fun_induction stripSigils s with
  | case1 => rfl
  | case2 c rest hq body rest' hclose _ ih =>
    have hquote : isQuote c = true := by simpa [isQuote] using hq
    have hnext : Quoting.outside.next c = .inside c := Quoting.next_quote hquote
    rw [Quoting.after_cons, hnext] at hs
    have hrest : Unbroken (.inside c) rest := hu.next hnext
    obtain ⟨body', rest'', hclose', hsplit, hbody, hdrop⟩ := closeQuote?_of_after hs hrest
    obtain ⟨rfl, rfl⟩ := Prod.mk.inj (Option.some.inj (hclose'.symm.trans hclose))
    rw [hsplit, Quoting.after_append, hbody] at hs
    rw [hsplit] at hrest
    have hafter : Unbroken .outside rest'' := by
      rw [← hbody]
      exact Unbroken.append hrest
    rw [dropSigils_of_ne (ne_of_class hquote (by decide)), hnext, hdrop, ih hs hafter]
  | case3 c rest hq hclose =>
    have hnext : Quoting.outside.next c = .inside c := Quoting.next_quote (by simpa [isQuote] using hq)
    rw [Quoting.after_cons, hnext] at hs
    have hrest : Unbroken (.inside c) rest := hu.next hnext
    obtain ⟨body, after, hsome, -⟩ := closeQuote?_of_after hs hrest
    cases hclose.symm.trans hsome
  | case4 c rest hq hdollar ih =>
    have hnext : Quoting.outside.next c = .outside := Quoting.next_outside (by simpa [isQuote] using hq)
    rw [Quoting.after_cons, hnext] at hs
    rw [dropSigils, if_pos (by simpa using hdollar), hnext, ih hs (hu.next hnext)]
  | case5 c rest hq hdollar ih =>
    have hnext : Quoting.outside.next c = .outside := Quoting.next_outside (by simpa [isQuote] using hq)
    rw [Quoting.after_cons, hnext] at hs
    rw [dropSigils, if_neg (by simpa using hdollar), hnext, ih hs (hu.next hnext)]

/-- Of an argument exactly the sigils are dropped, as the reader of the argument saw its quotes, when no
line feed stands directly after a protecting backslash. -/
theorem stripSigils_argument {text a : List Char} {start stop : Nat}
    (h : argumentAt? text start = some (a, stop)) (hu : Unbroken .outside a) :
    stripSigils a = withoutSigils a := by
  obtain ⟨⟨a', rest⟩, hread, heq⟩ := Option.map_eq_some_iff.1 h
  obtain ⟨rfl, -⟩ := Prod.mk.inj heq
  calc stripSigils a' = dropSigils .outside a' := stripSigils_eq (argument?_after hread) hu
    _ = withoutSigils a' := (withoutSigils_from [] a').symm

theorem stripSigils_argument_sample :
    ∃ a stop, argumentAt? "($a + f('(\\'$b')) == \"$c\")".toList 1 = some (a, stop) ∧
      Unbroken .outside a ∧ stripSigils a = "a + f('(\\'$b')".toList := by
  have hread : argumentAt? "($a + f('(\\'$b')) == \"$c\")".toList 1 =
      some ("$a + f('(\\'$b')".toList, 17) := by decide
  have hline : '\n' ∉ "$a + f('(\\'$b')".toList := by decide
  have hu : Unbroken .outside "$a + f('(\\'$b')".toList := by
    intro u v hsplit
    rw [hsplit] at hline
    exact absurd (List.mem_append_right _ List.mem_cons_self) hline
  exact ⟨_, _, hread, hu, (stripSigils_argument hread hu).trans (by decide)⟩

/-- After a line feed that a backslash protects, a quoted stretch loses its dollar signs. -/
theorem stripSigils_broken_line :
    ∃ a stop, argumentAt? "'\\\n$a')".toList 0 = some (a, stop) ∧ stripSigils a = "'\\\na'".toList ∧
      withoutSigils a = a := by
  have hquote : stripSigils "'\\\n$a'".toList = '\'' :: stripSigils "\\\n$a'".toList :=
    stripSigils_unclosed rfl (by decide)
  have hend : stripSigils ['\''] = '\'' :: stripSigils [] := stripSigils_unclosed rfl (by decide)
  have hname : startsName ['a', '\''] = true := by decide
  refine ⟨"'\\\n$a'".toList, 7, by decide, ?_, by decide⟩
  rw [hquote]
  simp [stripSigils, hname, hend]

end Stencil.Expression
