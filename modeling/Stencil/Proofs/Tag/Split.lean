import Stencil.Proofs.Tag.Argument
import Stencil.Proofs.Tag.Loop
import Stencil.Template.Piece
/-!
# Splitting the argument of a loop

The argument of a loop is split before the word `as` of its variables. It can be split in different ways
only where white space may stand on either side, so what the loop goes through, without the white space
around it, and the variables are the same for all of them.
-/

namespace Stencil.Tag

open Text

/-- A way to split an argument into a text that is not empty, and the variables after the word `as`. -/
structure Splits (argument items : List Char) (key : Option (List Char)) (value : List Char) : Prop where
  nonempty : items ≠ []
  split : ∃ tail, argument = items ++ tail ∧ LoopTail key value tail

def isMark (c : Char) : Bool := isWord c || c == '$'

theorem isMark_of_isBlank {c : Char} (h : isBlank c = true) : isMark c = false := by
  rw [isMark, isWord_of_isBlank h, Bool.false_or, beq_eq_false_iff_ne]
  exact ne_of_class h (by decide)

theorem Spells.isMark {name s : List Char} (h : Spells name s) : ∀ c ∈ s, isMark c = true := by
  have hname : ∀ c ∈ name, Tag.isMark c = true := by
    intro c hc
    rw [Tag.isMark, h.1.isWord c hc, Bool.true_or]
  obtain ⟨-, rfl | rfl⟩ := h
  · exact hname
  · exact List.forall_mem_cons.2 ⟨rfl, hname⟩

theorem IsName.ne_marked {name s : List Char} (h : IsName name) : name ≠ '$' :: s := by
  obtain ⟨c, w, rfl, hc⟩ := h.eq_cons
  intro heq
  exact ne_of_class hc (by decide) (List.cons.inj heq).1

theorem Spells.unique {name name' s : List Char} (h : Spells name s) (h' : Spells name' s) : name = name' := by
  obtain ⟨hn, rfl | rfl⟩ := h
  · rcases h'.2 with rfl | hs
    · rfl
    · exact absurd hs hn.ne_marked
  · rcases h'.2 with hs | hs
    · exact absurd hs.symm h'.1.ne_marked
    · exact (List.cons.inj hs).2

theorem Spells.eq_concat {name s : List Char} (h : Spells name s) :
    ∃ t y, s = t ++ [y] ∧ isBlank y = false := by
  obtain ⟨hn, hs⟩ := h
  rcases List.eq_nil_or_concat name with rfl | ⟨t, y, rfl⟩
  · cases hn
  · have hy : isBlank y = false := by
      rw [Bool.eq_false_iff]
      intro hb
      have := hn.isWord y (by simp)
      rw [isWord_of_isBlank hb] at this
      cases this
    rcases hs with rfl | rfl
    · exact ⟨t, y, List.concat_eq_append, hy⟩
    · exact ⟨'$' :: t, y, congrArg _ List.concat_eq_append, hy⟩

theorem Spells.stops_reverse {name s : List Char} (h : Spells name s) (u : List Char) :
    Stops isBlank (u ++ s).reverse := by
  obtain ⟨t, y, rfl, hy⟩ := h.eq_concat
  rw [← List.append_assoc]
  exact stops_reverse_concat.2 hy

theorem stops_before_variable {b : List Char} {x : Char} (hb : Blank b) (h : b = [] → isMark x = false)
    (u : List Char) : Stops isMark (u ++ x :: b).reverse := by
  rcases List.eq_nil_or_concat b with rfl | ⟨t, y, rfl⟩
  · exact stops_reverse_concat.2 (h rfl)
  · rw [List.concat_eq_append, ← List.cons_append, ← List.append_assoc]
    exact stops_reverse_concat.2 (isMark_of_isBlank (hb y (by simp)))

/-- A variable with white space around it at the end of a text has one name, and one text stands before it. -/
theorem variable_unique {u u' b b' s s' e e' name name' : List Char} {x x' : Char} (hs : Spells name s)
    (hs' : Spells name' s') (hb : Blank b) (hb' : Blank b') (he : Blank e) (he' : Blank e')
    (hx : isBlank x = false) (hx' : isBlank x' = false) (hapart : b = [] → isMark x = false)
    (hapart' : b' = [] → isMark x' = false) (h : u ++ x :: (b ++ (s ++ e)) = u' ++ x' :: (b' ++ (s' ++ e'))) :
    u = u' ∧ x = x' ∧ name = name' := by
  have hsplit : ((u ++ x :: b) ++ s) ++ e = ((u' ++ x' :: b') ++ s') ++ e' := by simpa using h
  -- from the end: white space, then the variable, then the white space before it
  obtain ⟨hend, -⟩ := append_run_unique he he' (hs.stops_reverse _) (hs'.stops_reverse _) hsplit
  obtain ⟨hfront, rfl⟩ := append_run_unique hs.isMark hs'.isMark (stops_before_variable hb hapart u)
    (stops_before_variable hb' hapart' u') hend
  obtain ⟨hu, hxx, -⟩ := append_run_inj hb hb' hx hx' hfront
  exact ⟨hu, hxx, hs.unique hs'⟩

theorem AtEnd.blank {e : List Char} (h : AtEnd e) : Blank e := by
  rcases h with rfl | rfl
  · exact nofun
  · simp [Blank, isBlank]

theorem LoopNames.unique {u u' b b' s s' value value' : List Char} {key key' : Option (List Char)}
    (h : LoopNames key value s) (h' : LoopNames key' value' s') (hb : Blank b) (hb' : Blank b') (hne : b ≠ [])
    (hne' : b' ≠ []) (heq : u ++ 's' :: (b ++ s) = u' ++ 's' :: (b' ++ s')) :
    u = u' ∧ key = key' ∧ value = value' := by
  have hapart {b : List Char} {x : Char} (hne : b ≠ []) : b = [] → isMark x = false := fun h => absurd h hne
  have harrow {b : List Char} : b = [] → isMark '>' = false := fun _ => by decide
  -- before the value stands the word or an arrow, whose last characters differ
  cases h with
  | @alone _ v e hv he =>
    cases h' with
    | @alone _ v' e' hv' he' =>
      obtain ⟨hu, -, hvalue⟩ := variable_unique hv hv' hb hb' he.blank he'.blank (by decide) (by decide)
        (hapart hne) (hapart hne') heq
      exact ⟨hu, rfl, hvalue⟩
    | @keyed _ _ k' v' a' c' e' hk' ha' hc' hv' he' =>
      have hsplit : u ++ 's' :: (b ++ (v ++ e)) =
          (u' ++ 's' :: (b' ++ (k' ++ (a' ++ ['='])))) ++ '>' :: (c' ++ (v' ++ e')) := by simpa using heq
      obtain ⟨-, hx, -⟩ := variable_unique hv hv' hb hc' he.blank he'.blank (by decide) (by decide)
        (hapart hne) harrow hsplit
      exact absurd hx (by decide)
  | @keyed _ _ k v a c e hk ha hc hv he =>
    cases h' with
    | @alone _ v' e' hv' he' =>
      have hsplit : (u ++ 's' :: (b ++ (k ++ (a ++ ['='])))) ++ '>' :: (c ++ (v ++ e)) =
          u' ++ 's' :: (b' ++ (v' ++ e')) := by simpa using heq
      obtain ⟨-, hx, -⟩ := variable_unique hv hv' hc hb' he.blank he'.blank (by decide) (by decide)
        harrow (hapart hne') hsplit
      exact absurd hx (by decide)
    | @keyed _ _ k' v' a' c' e' hk' ha' hc' hv' he' =>
      have hsplit : (u ++ 's' :: (b ++ (k ++ (a ++ ['='])))) ++ '>' :: (c ++ (v ++ e)) =
          (u' ++ 's' :: (b' ++ (k' ++ (a' ++ ['='])))) ++ '>' :: (c' ++ (v' ++ e')) := by simpa using heq
      obtain ⟨hfront, -, hvalue⟩ := variable_unique hv hv' hc hc' he.blank he'.blank (by decide) (by decide)
        harrow harrow hsplit
      have hkeys : (u ++ 's' :: (b ++ (k ++ a))) ++ ['='] = (u' ++ 's' :: (b' ++ (k' ++ a'))) ++ ['='] := by
        simpa using hfront
      obtain ⟨hu, -, rfl⟩ := variable_unique hk hk' hb hb' ha ha' (by decide) (by decide) (hapart hne)
        (hapart hne') (List.append_cancel_right hkeys)
      exact ⟨hu, rfl, hvalue⟩

theorem Spells.isPlain {name s : List Char} (h : Spells name s) : ∀ c ∈ s, isPlain c = true := by
  intro c hc
  exact isPlain_of_class (h.isMark c hc) (by decide)

theorem LoopNames.isPlain {key : Option (List Char)} {value s : List Char} (h : LoopNames key value s) :
    ∀ c ∈ s, isPlain c = true := by
  cases h with
  | alone hv he => exact List.forall_mem_append.2 ⟨hv.isPlain, isPlain_of_blank he.blank⟩
  | keyed hk hb hb' hv he =>
    have hvalue := List.forall_mem_append.2 ⟨hv.isPlain, isPlain_of_blank he.blank⟩
    have harrow := List.forall_mem_append.2 ⟨isPlain_of_blank hb', hvalue⟩
    refine List.forall_mem_append.2 ⟨hk.isPlain, List.forall_mem_append.2 ⟨isPlain_of_blank hb, ?_⟩⟩
    exact List.forall_mem_cons.2 ⟨by decide, List.forall_mem_cons.2 ⟨by decide, harrow⟩⟩

theorem LoopTail.isPlain {key : Option (List Char)} {value s : List Char} (h : LoopTail key value s) :
    ∀ c ∈ s, isPlain c = true := by
  cases h with
  | mk _ hb _ hb' hn =>
    have hnames := List.forall_mem_append.2 ⟨isPlain_of_blank hb', hn.isPlain⟩
    refine List.forall_mem_append.2 ⟨isPlain_of_blank hb, ?_⟩
    exact List.forall_mem_cons.2 ⟨by decide, List.forall_mem_cons.2 ⟨by decide, hnames⟩⟩

/-- All ways to split an argument agree on the variables and, white space around it apart, on what the loop
goes through. -/
theorem Splits.unique {argument items items' value value' : List Char} {key key' : Option (List Char)}
    (h : Splits argument items key value) (h' : Splits argument items' key' value') :
    trim items = trim items' ∧ key = key' ∧ value = value' := by
  obtain ⟨-, tail, rfl, ht⟩ := h
  obtain ⟨-, tail', heq, ht'⟩ := h'
  cases ht with
  | @mk a b names _ ha hne hb hn =>
    cases ht' with
    | @mk a' b' names' _ ha' hne' hb' hn' =>
      have hsplit : (items ++ (a ++ ['a'])) ++ 's' :: (b ++ names) =
          (items' ++ (a' ++ ['a'])) ++ 's' :: (b' ++ names') := by simpa using heq
      obtain ⟨hfront, hkey, hvalue⟩ := hn.unique hn' hb hb' hne hne' hsplit
      have hitems : (items ++ a) ++ ['a'] = (items' ++ a') ++ ['a'] := by simpa using hfront
      refine ⟨?_, hkey, hvalue⟩
      rw [← trim_append_blank items ha, List.append_cancel_right hitems, trim_append_blank items' ha']

theorem splits_of_splitLoop? {s items value : List Char} {key : Option (List Char)}
    (h : splitLoop? s = some (items, key, value)) : Splits s items key value := by
  induction s generalizing items with
  | nil => cases h
  | cons c rest ih =>
    rw [splitLoop?] at h
    split at h
    · next k v ht =>
      obtain ⟨rfl, hpair⟩ := Prod.mk.inj (Option.some.inj h)
      obtain ⟨rfl, rfl⟩ := Prod.mk.inj hpair
      exact ⟨List.cons_ne_nil _ _, rest, rfl, loopTail?_eq_some_iff.1 ht⟩
    · obtain ⟨⟨items', k, v⟩, hs, heq⟩ := Option.map_eq_some_iff.1 h
      obtain ⟨rfl, hpair⟩ := Prod.mk.inj heq
      obtain ⟨rfl, rfl⟩ := Prod.mk.inj hpair
      obtain ⟨-, tail, rfl, ht⟩ := ih hs
      exact ⟨List.cons_ne_nil _ _, tail, rfl, ht⟩

theorem Splits.shape {argument items value : List Char} {key : Option (List Char)}
    (h : Splits argument items key value) : LoopShape argument := by
  obtain ⟨hne, tail, rfl, ht⟩ := h
  exact .mk hne ht

theorem Splits.read {argument items value : List Char} {key : Option (List Char)}
    (h : Splits argument items key value) : loopHead? argument = some ⟨trim items, key, value⟩ := by
  obtain ⟨⟨items', key', value'⟩, hs⟩ := Option.isSome_iff_exists.1 (splitLoop?_isSome_iff.2 h.shape)
  obtain ⟨hitems, rfl, rfl⟩ := h.unique (splits_of_splitLoop? hs)
  rw [loopHead?, hs, hitems]
  rfl

theorem loopHead?_eq_some_iff {argument : List Char} {head : LoopHead} :
    loopHead? argument = some head ↔
      ∃ items, Splits argument items head.key head.value ∧ head.iterable = trim items := by
  constructor
  · intro h
    obtain ⟨⟨items, key, value⟩, hs, rfl⟩ := Option.map_eq_some_iff.1 h
    exact ⟨items, splits_of_splitLoop? hs, rfl⟩
  · rintro ⟨items, hs, hitems⟩
    rw [hs.read, ← hitems]

def printBinding : Option (List Char) → List Char → List Char
  | none, value => " as ".toList ++ value
  | some key, value => " as ".toList ++ (key ++ (" => ".toList ++ value))

theorem printBinding_eq_cons (key : Option (List Char)) (value : List Char) :
    ∃ t, printBinding key value = ' ' :: t := by
  cases key <;> exact ⟨_, rfl⟩

theorem blank_space : Blank [' '] := by simp [Blank, isBlank]

theorem loopTail_keyed {k v key value : List Char} (hk : Spells key k) (hv : Spells value v) :
    LoopTail (some key) value (" as ".toList ++ (k ++ (" => ".toList ++ v))) := by
  have hnames : LoopNames (some key) value (k ++ ([' '] ++ '=' :: '>' :: ([' '] ++ (v ++ [])))) :=
    .keyed hk blank_space blank_space hv (.inl rfl)
  rw [List.append_nil] at hnames
  exact LoopTail.mk (List.cons_ne_nil _ _) blank_space (List.cons_ne_nil _ _) blank_space hnames

theorem loopTail_print {key : Option (List Char)} {value : List Char} (hk : ∀ k ∈ key, IsName k)
    (hv : IsName value) : LoopTail key value (printBinding key value) := by
  cases key with
  | none =>
    have hnames : LoopNames none value (value ++ []) := .alone ⟨hv, .inl rfl⟩ (.inl rfl)
    rw [List.append_nil] at hnames
    exact LoopTail.mk (List.cons_ne_nil _ _) blank_space (List.cons_ne_nil _ _) blank_space hnames
  | some k => exact loopTail_keyed ⟨hk k rfl, .inl rfl⟩ ⟨hv, .inl rfl⟩

theorem loopHead?_print {items value : List Char} {key : Option (List Char)} (hne : items ≠ [])
    (htrim : trim items = items) (hk : ∀ k ∈ key, IsName k) (hv : IsName value) :
    loopHead? (items ++ printBinding key value) = some ⟨items, key, value⟩ := by
  have hsplits : Splits (items ++ printBinding key value) items key value :=
    ⟨hne, printBinding key value, rfl, loopTail_print hk hv⟩
  rw [hsplits.read, htrim]

theorem printBinding_eq_concat (key : Option (List Char)) {value : List Char} (hv : IsName value) :
    ∃ t y, printBinding key value = t ++ [y] ∧ isBlank y = false := by
  obtain ⟨t, y, hvalue, hy⟩ := Spells.eq_concat (s := value) ⟨hv, .inl rfl⟩
  cases key with
  | none => exact ⟨" as ".toList ++ t, y, by simp [printBinding, hvalue], hy⟩
  | some k => exact ⟨" as ".toList ++ (k ++ (" => ".toList ++ t)), y, by simp [printBinding, hvalue], hy⟩

theorem trim_print {items value : List Char} {key : Option (List Char)} (hne : items ≠ [])
    (htrim : trim items = items) (hv : IsName value) :
    trim (items ++ printBinding key value) = items ++ printBinding key value := by
  obtain ⟨t, y, ht, hy⟩ := printBinding_eq_concat key hv
  apply trim_eq_self
  · obtain ⟨c, more, rfl⟩ := List.exists_cons_of_ne_nil hne
    exact stops_cons.2 (stops_cons.1 (stops_of_trim htrim).1)
  · rw [ht, ← List.append_assoc, List.reverse_concat]
    exact stops_cons.2 hy

end Stencil.Tag

namespace Stencil.Template

open Text Tag

/-- The argument of a loop is accepted just when it can be split, all ways to split it give the same loop, and
that is what is read; any other argument is a fault on the line of the tag. So what a loop goes through is
read whole, even with the word `as` or an arrow in it. -/
theorem loopMark_iff_splits (argument : List Char) (line : Nat) :
    (∀ m, (loopMark argument).mapError (Fault.tag · line) = .ok m ↔
      ∃ items key value, Splits argument items key value ∧
        m = .loop (String.ofList (trim items)) (key.map String.ofList) (String.ofList value)) ∧
    (∀ items items' key key' value value', Splits argument items key value →
      Splits argument items' key' value' → trim items = trim items' ∧ key = key' ∧ value = value') ∧
    ((loopMark argument).mapError (Fault.tag · line) =
        .error (.tag (.loopShape (String.ofList argument)) line) ↔
      ∀ items key value, ¬Splits argument items key value) ∧
    ∀ items k key v value, items ≠ [] → trim items = items → Spells key k → Spells value v →
      loopMark (items ++ (" as ".toList ++ (k ++ (" => ".toList ++ v)))) =
        .ok (.loop (String.ofList items) (some (String.ofList key)) (String.ofList value)) := by
  refine ⟨fun m => ?_, fun _ _ _ _ _ _ h h' => h.unique h', ?_, ?_⟩
  · constructor
    · intro h
      unfold loopMark at h
      split at h
      · next head hl =>
        obtain ⟨items, hs, hitems⟩ := loopHead?_eq_some_iff.1 hl
        refine ⟨items, head.key, head.value, hs, ?_⟩
        rw [← hitems]
        exact (Except.ok.inj h).symm
      · cases h
    · rintro ⟨items, key, value, hs, rfl⟩
      rw [loopMark, hs.read]
      rfl
  · constructor
    · intro h items key value hs
      rw [loopMark, hs.read] at h
      cases h
    · intro hno
      have hnone : loopHead? argument = none := by
        rw [Option.eq_none_iff_forall_ne_some]
        intro head hl
        obtain ⟨items, hs, -⟩ := loopHead?_eq_some_iff.1 hl
        exact hno _ _ _ hs
      rw [loopMark, hnone]
      rfl
  · intro items k key v value hne htrim hk hv
    have hs : Splits _ items (some key) value := ⟨hne, _, rfl, loopTail_keyed hk hv⟩
    rw [loopMark, hs.read, htrim]
    rfl

theorem loopMark_iff_splits_sample :
    let argument := "a as b => c  as $k=>\tv\n".toList
    Splits argument "a as b => c".toList (some ['k']) ['v'] ∧
      (loopMark argument).mapError (Fault.tag · 3) = .ok (.loop "a as b => c" (some "k") "v") := by
  intro argument
  have hs : Splits argument "a as b => c".toList (some ['k']) ['v'] :=
    ⟨List.cons_ne_nil _ _, "  as $k=>\tv\n".toList, rfl, loopTail?_eq_some_iff.1 (by decide)⟩
  exact ⟨hs, ((loopMark_iff_splits argument 3).1 _).2 ⟨_, _, _, hs, by decide⟩⟩

end Stencil.Template
