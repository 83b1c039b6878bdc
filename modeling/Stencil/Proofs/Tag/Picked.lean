import Stencil.Proofs.Tag.Balanced
import Stencil.Proofs.Tag.Echo
import Stencil.Proofs.Tag.Split
/-!
# What is read of a tag

The expression of an echo and the argument of a tag are read from their tags without the white space around
them. They can be read again: an argument ends where it ended before, and no echo ends within an expression
but at its beginning.
-/

namespace Stencil.Tag

open Text

structure EchoRead (expr : List Char) : Prop where
  nonempty : expr ≠ []
  oneLine : '\n' ∉ expr
  unended : ∀ q, echoEnd <+: expr.drop q → q = 0
  trimmed : trim expr = expr ∨ ∃ c, isBlank c = true ∧ expr = [c]

/-- What is read for a condition, and for what a loop goes through. -/
structure ArgumentRead (argument : List Char) : Prop where
  nonempty : argument ≠ []
  trimmed : trim argument = argument
  again : argumentAt? (argument ++ [')']) 0 = some (argument, argument.length + 1)

variable {s expr after : List Char}

theorem echoBody?_oneLine (h : echoBody? s = some (expr, after)) : '\n' ∉ expr := by
  fun_induction echoBody? s generalizing expr with
  | case1 => cases h
  | case2 => cases h
  | case3 c s hc rest _ =>
    obtain ⟨rfl, -⟩ := Prod.mk.inj (Option.some.inj h)
    rw [List.mem_singleton]
    exact Ne.symm hc
  | case4 c s hc _ ih =>
    obtain ⟨⟨body, rest⟩, hr, heq⟩ := Option.map_eq_some_iff.1 h
    obtain ⟨rfl, rfl⟩ := Prod.mk.inj heq
    intro hmem
    rcases List.mem_cons.1 hmem with hn | hmem
    · exact hc hn.symm
    · exact ih hr hmem

/-- An expression goes on only where no closing braces follow, so they can stand at its beginning alone. -/
theorem echoBody?_unended (h : echoBody? s = some (expr, after)) (q : Nat) : ¬echoEnd <+: expr.drop (q + 1) := by
  fun_induction echoBody? s generalizing expr q with
  | case1 => cases h
  | case2 => cases h
  | case3 c s _ rest _ =>
    obtain ⟨rfl, -⟩ := Prod.mk.inj (Option.some.inj h)
    intro hend
    have hlen := hend.length_le
    simp [echoEnd] at hlen
  | case4 c s _ hnone ih =>
    obtain ⟨⟨body, rest⟩, hr, heq⟩ := Option.map_eq_some_iff.1 h
    obtain ⟨rfl, rfl⟩ := Prod.mk.inj heq
    rw [List.drop_succ_cons]
    cases q with
    | succ q => exact ih hr q
    | zero =>
      rintro ⟨t, ht⟩
      obtain ⟨b, -, hs, -⟩ := echoBody?_split hr
      rw [List.drop_zero] at ht
      rw [hs, ← ht, List.append_assoc] at hnone
      have hhere (u : List Char) : after? echoEnd (dropBlanks (echoEnd ++ u)) = some u := after?_append echoEnd u
      rw [hhere] at hnone
      cases hnone

theorem echoBody?_ends (h : echoBody? s = some (expr, after)) (hs : Stops isBlank s) :
    Stops isBlank expr.reverse := by
  cases s with
  | nil => cases h
  | cons c s =>
    rw [echoBody?] at h
    split at h
    · cases h
    · split at h
      · obtain ⟨rfl, -⟩ := Prod.mk.inj (Option.some.inj h)
        exact stops_cons.2 (stops_cons.1 hs)
      · next hnone =>
        obtain ⟨⟨body, rest⟩, hr, heq⟩ := Option.map_eq_some_iff.1 h
        obtain ⟨rfl, -⟩ := Prod.mk.inj heq
        obtain ⟨-, -, hstop, -⟩ := echoBody?_cut hr hnone
        obtain ⟨-, -, -, hne⟩ := echoBody?_split hr
        rw [List.reverse_cons]
        exact hstop.append (by simpa using hne) [c]

theorem echoRead_blank {c : Char} (hc : isBlank c = true) (hn : c ≠ '\n') : EchoRead [c] := by
  refine ⟨List.cons_ne_nil _ _, ?_, ?_, .inr ⟨c, hc, rfl⟩⟩
  · rw [List.mem_singleton]
    exact Ne.symm hn
  · intro q hq
    have hlen := hq.length_le
    simp [echoEnd] at hlen
    omega

theorem echoRead_of_echoAfter? (h : echoAfter? s = some (expr, after)) : EchoRead expr := by
  unfold echoAfter? at h
  split at h
  · next hf =>
    obtain rfl := Option.some.inj h
    obtain ⟨b, -, hs, hne⟩ := echoBody?_split hf
    have hstart : Stops isBlank (dropBlanks s) := stops_dropWhile isBlank s
    have hends := echoBody?_ends hf hstart
    have hbegins : Stops isBlank expr := by
      rw [hs] at hstart
      exact hstart.left
    refine ⟨hne, echoBody?_oneLine hf, ?_, .inl (trim_eq_self hbegins hends)⟩
    intro q hq
    cases q with
    | zero => rfl
    | succ q => exact absurd hq (echoBody?_unended hf q)
  · split at h
    · next c _ hc =>
      obtain ⟨rfl, -⟩ := Prod.mk.inj (Option.some.inj h)
      obtain ⟨hblank, hline⟩ := List.mem_filter.1 (List.mem_of_getLast? hc)
      exact echoRead_blank (mem_takeWhile hblank) (by simpa using hline)
    · cases h

theorem argumentRead_of_balanced {raw : List Char} (h : Balanced raw) (hne : trim raw ≠ []) :
    ArgumentRead (trim raw) := by
  refine ⟨hne, trim_trim raw, ?_⟩
  have hread := argumentAt?_balanced [] h.trim []
  rwa [trim_trim, List.nil_append, List.length_nil, Nat.zero_add] at hread

theorem balanced_of_argument? {argument rest : List Char} (h : argument? s = some (argument, rest)) :
    ∃ raw, Balanced raw ∧ argument = trim raw := by
  obtain ⟨⟨raw, rest'⟩, hr, heq⟩ := Option.map_eq_some_iff.1 h
  obtain ⟨rfl, -⟩ := Prod.mk.inj heq
  exact ⟨raw, (closeArgument?_eq_some_iff.1 hr).1, rfl⟩

theorem LoopNames.names {key : Option (List Char)} {value : List Char} (h : LoopNames key value s) :
    (∀ k ∈ key, IsName k) ∧ IsName value := by
  cases h with
  | alone hv => exact ⟨nofun, hv.1⟩
  | keyed hk _ _ hv =>
    refine ⟨?_, hv.1⟩
    intro k hmem
    obtain rfl := Option.some.inj hmem
    exact hk.1

theorem ArgumentRead.balanced {argument : List Char} (h : ArgumentRead argument) : Balanced argument := by
  have hb := (argumentAt?_eq_some_iff.1 h.again).1.balanced
  rwa [Nat.add_sub_cancel, List.extract_eq_take_drop, List.drop_zero, Nat.sub_zero, List.take_left] at hb

/-- What a loop goes through is an argument of its own, as nothing after it is a quote or a parenthesis. -/
theorem loopHead?_read {argument : List Char} {head : LoopHead} (ha : ArgumentRead argument)
    (h : loopHead? argument = some head) :
    ArgumentRead head.iterable ∧ (∀ k ∈ head.key, IsName k) ∧ IsName head.value := by
  obtain ⟨items, ⟨hne, tail, rfl, ht⟩, hitems⟩ := loopHead?_eq_some_iff.1 h
  have hstart : Stops isBlank items := (stops_of_trim ha.trimmed).1.left
  have hbalanced : Balanced items := ha.balanced.of_append_plain ht.isPlain
  rw [hitems]
  refine ⟨argumentRead_of_balanced hbalanced (trim_ne_nil hne hstart), ?_⟩
  cases ht with
  | mk _ _ _ _ hn => exact hn.names

end Stencil.Tag
