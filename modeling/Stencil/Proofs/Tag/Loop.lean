import Stencil.Proofs.Text.Class
import Stencil.Tag.Loop
/-!
# The shape of a loop's argument

What the reader of a loop's argument accepts, said as the ways to spell one: some text, white space, the
word `as`, white space, and a variable, before which another variable and an arrow may stand.
-/

namespace Stencil.Tag

open Text

/-- A letter or an underscore, and word characters after it. -/
def IsName : List Char → Prop
  | [] => False
  | c :: rest => isNameStart c = true ∧ ∀ x ∈ rest, isWord x = true

/-- A variable is spelled as its name, perhaps after a dollar sign. -/
def Spells (name s : List Char) : Prop := IsName name ∧ (s = name ∨ s = '$' :: name)

def AtEnd (s : List Char) : Prop := s = [] ∨ s = ['\n']

/-- The variables of a loop: the value alone, or a key, an arrow and the value. -/
inductive LoopNames : Option (List Char) → List Char → List Char → Prop where
  | alone {value v e : List Char} : Spells value v → AtEnd e → LoopNames none value (v ++ e)
  | keyed {key value k v b b' e : List Char} : Spells key k → Blank b → Blank b' → Spells value v →
      AtEnd e → LoopNames (some key) value (k ++ (b ++ ('=' :: '>' :: (b' ++ (v ++ e)))))

inductive LoopTail (key : Option (List Char)) (value : List Char) : List Char → Prop where
  | mk {b b' names : List Char} : b ≠ [] → Blank b → b' ≠ [] → Blank b' → LoopNames key value names →
      LoopTail key value (b ++ ('a' :: 's' :: (b' ++ names)))

inductive LoopShape : List Char → Prop where
  | mk {items tail : List Char} {key : Option (List Char)} {value : List Char} : items ≠ [] →
      LoopTail key value tail → LoopShape (items ++ tail)

theorem IsName.isWord {name : List Char} (h : IsName name) : ∀ c ∈ name, isWord c = true := by
  cases name with
  | nil => cases h
  | cons c rest => exact List.forall_mem_cons.2 ⟨isWord_of_isNameStart h.1, h.2⟩

theorem IsName.eq_cons {name : List Char} (h : IsName name) :
    ∃ c rest, name = c :: rest ∧ isNameStart c = true := by
  cases name with
  | nil => cases h
  | cons c rest => exact ⟨c, rest, rfl, h.1⟩

theorem plainName?_eq_some_iff {s name rest : List Char} :
    plainName? s = some (name, rest) ↔ IsName name ∧ s = name ++ rest ∧ Stops isWord rest := by
  constructor
  · intro h
    cases s with
    | nil => cases h
    | cons c s =>
      rw [plainName?] at h
      split at h
      · next hc =>
        obtain ⟨rfl, rfl⟩ := Prod.mk.inj (Option.some.inj h)
        refine ⟨⟨hc, fun x hx => mem_takeWhile hx⟩, ?_, stops_dropWhile isWord s⟩
        rw [List.cons_append, List.takeWhile_append_dropWhile]
      · cases h
  · rintro ⟨hn, rfl, hr⟩
    cases name with
    | nil => cases hn
    | cons c w =>
      rw [List.cons_append, plainName?, if_pos hn.1, takeWhile_append_stop hn.2 hr,
        dropWhile_append_stop hn.2 hr]

theorem marked?_eq_some_iff {s name rest : List Char} :
    marked? s = some (name, rest) ↔ ∃ t, Spells name t ∧ s = t ++ rest ∧ Stops isWord rest := by
  constructor
  · intro h
    unfold marked? at h
    split at h
    · next s =>
      obtain ⟨hn, rfl, hr⟩ := plainName?_eq_some_iff.1 h
      exact ⟨'$' :: name, ⟨hn, .inr rfl⟩, rfl, hr⟩
    · obtain ⟨hn, rfl, hr⟩ := plainName?_eq_some_iff.1 h
      exact ⟨name, ⟨hn, .inl rfl⟩, rfl, hr⟩
  · rintro ⟨t, ⟨hn, rfl | rfl⟩, rfl, hr⟩
    · obtain ⟨c, w, rfl, hc⟩ := hn.eq_cons
      have hd : c ≠ '$' := ne_of_class hc (by decide)
      rw [marked?.eq_2]
      · exact plainName?_eq_some_iff.2 ⟨hn, rfl, hr⟩
      · intro rest' h
        exact hd (List.cons.inj h).1
    · exact plainName?_eq_some_iff.2 ⟨hn, rfl, hr⟩

theorem atEnd_iff {s : List Char} : atEnd s = true ↔ AtEnd s := by
  simp [atEnd, AtEnd]

theorem AtEnd.stops {s : List Char} (h : AtEnd s) : Stops isWord s := by
  rcases h with rfl | rfl
  · exact stops_nil
  · exact stops_cons.2 (by decide)

theorem AtEnd.dropBlanks {s : List Char} (h : AtEnd s) : dropBlanks s = [] := by
  rcases h with rfl | rfl
  · rfl
  · decide

theorem wholeMarked?_eq_some_iff {s name : List Char} :
    wholeMarked? s = some name ↔ ∃ v e, Spells name v ∧ AtEnd e ∧ s = v ++ e := by
  constructor
  · intro h
    unfold wholeMarked? at h
    split at h
    · next n rest hm =>
      split at h
      · next he =>
        obtain rfl := Option.some.inj h
        obtain ⟨t, ht, rfl, -⟩ := marked?_eq_some_iff.1 hm
        exact ⟨t, rest, ht, atEnd_iff.1 he, rfl⟩
      · cases h
    · cases h
  · rintro ⟨v, e, hv, he, rfl⟩
    rw [wholeMarked?, marked?_eq_some_iff.2 ⟨v, hv, rfl, he.stops⟩]
    exact if_pos (atEnd_iff.2 he)

theorem Spells.stops {name s : List Char} (h : Spells name s) (rest : List Char) :
    Stops isBlank (s ++ rest) := by
  obtain ⟨hn, rfl | rfl⟩ := h
  · obtain ⟨c, w, rfl, hc⟩ := hn.eq_cons
    refine stops_cons.2 (Bool.eq_false_iff.2 fun hb => ?_)
    have := isWord_of_isNameStart hc
    rw [isWord_of_isBlank hb] at this
    cases this
  · exact stops_cons.2 (by decide)

def keyedNames? (s : List Char) : Option (Option (List Char) × List Char) := do
  let (key, rest) ← marked? s
  let rest ← after? ['=', '>'] (dropBlanks rest)
  let value ← wholeMarked? (dropBlanks rest)
  some (some key, value)

theorem loopNames?_eq (s : List Char) :
    loopNames? s =
      match keyedNames? s with
      | some names => some names
      | none => (wholeMarked? s).map (none, ·) := rfl

theorem keyedNames?_eq_some_iff {s value : List Char} {key : Option (List Char)} :
    keyedNames? s = some (key, value) ↔ LoopNames key value s ∧ key.isSome := by
  simp only [keyedNames?, Option.bind_eq_bind, Option.bind_eq_some_iff, Option.some.injEq,
    Prod.mk.injEq, Prod.exists]
  constructor
  · rintro ⟨k, rest, hk, rest', ha, v, hv, rfl, rfl⟩
    obtain ⟨t, ht, rfl, -⟩ := marked?_eq_some_iff.1 hk
    obtain ⟨w, e, hw, he, hrest'⟩ := wholeMarked?_eq_some_iff.1 hv
    obtain ⟨b, hb, hrest⟩ := dropBlanks_split rest
    obtain ⟨b', hb', hmore⟩ := dropBlanks_split rest'
    rw [after?_eq_some_iff.1 ha, hmore, hrest'] at hrest
    rw [hrest]
    refine ⟨?_, rfl⟩
    show LoopNames (some k) v (t ++ (b ++ ('=' :: '>' :: (b' ++ (w ++ e)))))
    exact .keyed ht hb hb' hw he
  · rintro ⟨h, hkey⟩
    cases h with
    | alone => cases hkey
    | @keyed k _ t v b b' e hk hb hb' hv he =>
      refine ⟨k, _, marked?_eq_some_iff.2 ⟨t, hk, rfl, ?_⟩, b' ++ (v ++ e), ?_, value, ?_, rfl, rfl⟩
      · exact hb.stops (stops_cons.2 (by decide))
      · rw [dropBlanks_append hb (stops_cons.2 (by decide))]
        rfl
      · rw [dropBlanks_append hb' (hv.stops e)]
        exact wholeMarked?_eq_some_iff.2 ⟨v, e, hv, he, rfl⟩

theorem keyedNames?_alone {value v e : List Char} (hv : Spells value v) (he : AtEnd e) :
    keyedNames? (v ++ e) = none := by
  have hm : marked? (v ++ e) = some (value, e) := marked?_eq_some_iff.2 ⟨v, hv, rfl, he.stops⟩
  simp only [keyedNames?, hm, he.dropBlanks, Option.bind_eq_bind, Option.bind_some]
  rfl

theorem loopNames?_eq_some_iff {s value : List Char} {key : Option (List Char)} :
    loopNames? s = some (key, value) ↔ LoopNames key value s := by
  rw [loopNames?_eq]
  constructor
  · intro h
    cases hk : keyedNames? s with
    | some names =>
      rw [hk] at h
      obtain rfl := Option.some.inj h
      exact (keyedNames?_eq_some_iff.1 hk).1
    | none =>
      rw [hk] at h
      obtain ⟨v, hv, hpair⟩ := Option.map_eq_some_iff.1 h
      obtain ⟨rfl, rfl⟩ := Prod.mk.inj hpair
      obtain ⟨w, e, hw, he, rfl⟩ := wholeMarked?_eq_some_iff.1 hv
      exact .alone hw he
  · intro h
    cases h with
    | alone hv he =>
      rw [keyedNames?_alone hv he, wholeMarked?_eq_some_iff.2 ⟨_, _, hv, he, rfl⟩]
      rfl
    | keyed hk hb hb' hv he =>
      rw [keyedNames?_eq_some_iff.2 ⟨.keyed hk hb hb' hv he, rfl⟩]

theorem afterBlanks?_eq_some_iff {s rest : List Char} :
    afterBlanks? s = some rest ↔ ∃ b, b ≠ [] ∧ Blank b ∧ s = b ++ rest ∧ Stops isBlank rest := by
  constructor
  · intro h
    cases s with
    | nil => cases h
    | cons c s =>
      rw [afterBlanks?] at h
      split at h
      · next hc =>
        obtain rfl := Option.some.inj h
        obtain ⟨b, hb, hs⟩ := dropBlanks_split s
        refine ⟨c :: b, by simp, List.forall_mem_cons.2 ⟨hc, hb⟩, ?_, stops_dropWhile isBlank s⟩
        rw [List.cons_append, ← hs]
      · cases h
  · rintro ⟨b, hne, hb, rfl, hr⟩
    cases b with
    | nil => exact absurd rfl hne
    | cons c b =>
      obtain ⟨hc, hb⟩ := List.forall_mem_cons.1 hb
      rw [List.cons_append, afterBlanks?, if_pos hc, dropBlanks_append hb hr]

theorem LoopNames.stops {key : Option (List Char)} {value s : List Char} (h : LoopNames key value s) :
    Stops isBlank s := by
  cases h with
  | alone hv => exact hv.stops _
  | keyed hk => exact hk.stops _

theorem loopTail?_eq_some_iff {s value : List Char} {key : Option (List Char)} :
    loopTail? s = some (key, value) ↔ LoopTail key value s := by
  simp only [loopTail?, Option.bind_eq_bind, Option.bind_eq_some_iff]
  constructor
  · rintro ⟨r, hr, r', hr', r'', hr'', hn⟩
    obtain ⟨b, hne, hb, rfl, -⟩ := afterBlanks?_eq_some_iff.1 hr
    obtain ⟨b', hne', hb', rfl, -⟩ := afterBlanks?_eq_some_iff.1 hr''
    rw [after?_eq_some_iff.1 hr']
    show LoopTail key value (b ++ ('a' :: 's' :: (b' ++ r'')))
    exact .mk hne hb hne' hb' (loopNames?_eq_some_iff.1 hn)
  · intro h
    cases h with
    | @mk b b' names hne hb hne' hb' hn =>
      refine ⟨_, afterBlanks?_eq_some_iff.2 ⟨b, hne, hb, rfl, stops_cons.2 (by decide)⟩, b' ++ names, rfl,
        names, afterBlanks?_eq_some_iff.2 ⟨b', hne', hb', rfl, hn.stops⟩, loopNames?_eq_some_iff.2 hn⟩

theorem loopShape_cons {c : Char} {rest : List Char} :
    LoopShape (c :: rest) ↔ (∃ key value, LoopTail key value rest) ∨ LoopShape rest := by
  constructor
  · generalize hs : c :: rest = s
    rintro ⟨hne, ht⟩
    next items tail key value =>
    cases items with
    | nil => exact absurd rfl hne
    | cons x items =>
      obtain ⟨rfl, rfl⟩ := List.cons.inj hs
      cases items with
      | nil => exact .inl ⟨key, value, ht⟩
      | cons y items => exact .inr (.mk (by simp) ht)
  · rintro (⟨key, value, ht⟩ | ⟨hne, ht⟩)
    · exact LoopShape.mk (List.cons_ne_nil c []) ht
    · next items tail key value => exact LoopShape.mk (List.cons_ne_nil c items) ht

theorem splitLoop?_isSome_iff {s : List Char} : (splitLoop? s).isSome ↔ LoopShape s := by
  induction s with
  | nil =>
    constructor
    · intro h
      cases h
    · generalize hs : [] = s
      rintro ⟨hne, -⟩
      exact absurd (List.append_eq_nil_iff.1 hs.symm).1 hne
  | cons c rest ih =>
    rw [loopShape_cons, ← ih, splitLoop?]
    cases ht : loopTail? rest with
    | some names =>
      obtain ⟨key, value⟩ := names
      exact ⟨fun _ => .inl ⟨key, value, loopTail?_eq_some_iff.1 ht⟩, fun _ => rfl⟩
    | none =>
      rw [Option.isSome_map]
      constructor
      · exact .inr
      · rintro (⟨key, value, hk⟩ | h)
        · rw [loopTail?_eq_some_iff.2 hk] at ht
          cases ht
        · exact h

theorem loopHead?_isSome_iff {s : List Char} : (loopHead? s).isSome ↔ LoopShape s := by
  rw [loopHead?, Option.isSome_map, splitLoop?_isSome_iff]

end Stencil.Tag
