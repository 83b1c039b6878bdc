import Stencil.Proofs.Json.Complete
import Stencil.Proofs.Run
/-!
# What is read is a text of the grammar

Whatever the reader accepts is a short text of the grammar, which writes the value that the reader gives.
So the reader and the grammar agree on what a text is and on what it stands for.
-/

namespace Stencil.Json

open Text Number

variable {cs rest : List Char} {depth room : Nat}

theorem split_of_takeAscii {ds : List Char} (h : takeAscii cs = (ds, rest)) :
    cs = ds ++ rest ∧ Digits ds := by
  obtain ⟨rfl, rfl⟩ := Prod.mk.inj h
  exact ⟨List.takeWhile_append_dropWhile.symm, fun _ hc => mem_takeWhile hc⟩

theorem split_of_takeWhole {c : Char} {ds : List Char} (h : takeWhole cs = (c :: ds, rest)) :
    cs = c :: ds ++ rest ∧ Whole (c :: ds) := by
  unfold takeWhole at h
  split at h
  · obtain ⟨hds, rfl⟩ := Prod.mk.inj h
    obtain ⟨rfl, rfl⟩ := List.cons.inj hds
    exact ⟨rfl, .zero⟩
  · next hne =>
    obtain ⟨rfl, hdigits⟩ := split_of_takeAscii h
    refine ⟨rfl, .digits hdigits ?_⟩
    rintro rfl
    exact hne (ds ++ rest) rfl

theorem split_of_takePlaces {places : List Char} (h : takePlaces cs = (places, rest)) :
    cs = pointed places ++ rest ∧ Digits places := by
  have absent : cs = pointed [] ++ cs ∧ Digits [] := ⟨rfl, fun c hc => absurd hc List.not_mem_nil⟩
  unfold takePlaces at h
  split at h
  · next after =>
    split at h
    · obtain ⟨rfl, rfl⟩ := Prod.mk.inj h
      exact absent
    · next taken hne =>
      obtain ⟨rfl, hdigits⟩ := split_of_takeAscii h
      cases places with
      | nil => exact absurd h (hne rest)
      | cons c places => exact ⟨rfl, hdigits⟩
  · obtain ⟨rfl, rfl⟩ := Prod.mk.inj h
    exact absent

theorem split_of_takeSign {negative : Bool} (h : takeSign cs = (negative, rest)) :
    ∃ sign, PowerSign negative sign ∧ cs = sign ++ rest := by
  unfold takeSign at h
  split at h
  all_goals obtain ⟨rfl, rfl⟩ := Prod.mk.inj h
  · exact ⟨['-'], .minus, rfl⟩
  · exact ⟨['+'], .plus, rfl⟩
  · exact ⟨[], .none, rfl⟩

theorem split_of_takePower {power : Option Int} (h : takePower cs = (power, rest)) :
    ∃ text, Power power text ∧ cs = text ++ rest := by
  unfold takePower at h
  split at h
  · next c after =>
    split at h
    · next hmark =>
      have hmark' : c = 'e' ∨ c = 'E' := by simpa using hmark
      cases hsign : takeSign after with
      | mk negative digits =>
        rw [hsign] at h
        obtain ⟨sign, hs, rfl⟩ := split_of_takeSign hsign
        dsimp only at h
        split at h
        · obtain ⟨rfl, rfl⟩ := Prod.mk.inj h
          exact ⟨[], .none, rfl⟩
        · next ds after' hne htake =>
          obtain ⟨rfl, rfl⟩ := Prod.mk.inj h
          obtain ⟨rfl, hdigits⟩ := split_of_takeAscii htake
          exact ⟨_, .some hmark' hs hne hdigits, by simp⟩
    · obtain ⟨rfl, rfl⟩ := Prod.mk.inj h
      exact ⟨[], .none, rfl⟩
  · obtain ⟨rfl, rfl⟩ := Prod.mk.inj h
    exact ⟨[], .none, rfl⟩

theorem spells_of_readNumber {negative : Bool} {v : Json} (h : readNumber negative cs = .ok (v, rest)) :
    ∃ t, cs = t ++ rest ∧ Spells .short depth v (minus negative ++ t) := by
  unfold readNumber at h
  split at h
  · cases h
  · next whole after hne hwhole =>
    obtain ⟨c, ds, rfl⟩ := List.exists_cons_of_ne_nil hne
    obtain ⟨rfl, hw⟩ := split_of_takeWhole hwhole
    cases hplaces : takePlaces after with
    | mk places after =>
      rw [hplaces] at h
      obtain ⟨rfl, hp⟩ := split_of_takePlaces hplaces
      dsimp only at h
      cases hpower : takePower after with
      | mk power after =>
        rw [hpower] at h
        obtain ⟨text, ht, rfl⟩ := split_of_takePower hpower
        dsimp only at h
        split at h
        · next hnone =>
          simp only [Bool.and_eq_true, List.isEmpty_iff, Option.isNone_iff_eq_none] at hnone
          obtain ⟨rfl, rfl⟩ := hnone
          cases ht
          split at h
          · cases h
          · next hshort =>
            obtain ⟨rfl, rfl⟩ := Prod.mk.inj (Except.ok.inj h)
            exact ⟨c :: ds, rfl, .int hw (Nat.not_lt.1 hshort)⟩
        · next hsome =>
          obtain ⟨rfl, rfl⟩ := Prod.mk.inj (Except.ok.inj h)
          refine ⟨c :: ds ++ (pointed places ++ text), by simp, .float hw hp ht ?_⟩
          cases places <;> cases power <;> simp_all

theorem spells_of_readSimple {v : Json} (h : readSimple cs = .ok (v, rest)) :
    ∃ t, cs = t ++ rest ∧ Spells .short depth v t := by
  unfold readSimple at h
  split at h
  · next found hfound =>
    obtain ⟨⟨word, value⟩, hmem, hafter⟩ := List.exists_of_findSome?_eq_some hfound
    obtain rfl := Except.ok.inj h
    obtain ⟨after, ha, heq⟩ := Option.map_eq_some_iff.1 hafter
    obtain ⟨rfl, rfl⟩ := Prod.mk.inj heq
    exact ⟨word, after?_eq_some_iff.1 ha, .word hmem⟩
  · split at h
    · obtain ⟨t, rfl, ht⟩ := spells_of_readNumber h
      exact ⟨'-' :: t, rfl, ht⟩
    · exact spells_of_readNumber h

theorem split_of_hexFour? {n : Nat} (h : hexFour? cs = some (n, rest)) :
    ∃ hex, hexFour? hex = some (n, []) ∧ cs = hex ++ rest := by
  unfold hexFour? at h
  split at h
  · next a b c d after =>
    obtain ⟨a', ha, h⟩ := Option.bind_eq_some_iff.1 h
    obtain ⟨b', hb, h⟩ := Option.bind_eq_some_iff.1 h
    obtain ⟨c', hc, h⟩ := Option.bind_eq_some_iff.1 h
    obtain ⟨d', hd, h⟩ := Option.bind_eq_some_iff.1 h
    obtain ⟨rfl, rfl⟩ := Prod.mk.inj (Option.some.inj h)
    exact ⟨[a, b, c, d], by simp [hexFour?, ha, hb, hc, hd], rfl⟩
  · cases h

theorem split_of_lowHalf? {n : Nat} (h : lowHalf? cs = some (n, rest)) :
    ∃ hex, hexFour? hex = some (n, []) ∧ IsLowHalf n ∧ cs = '\\' :: 'u' :: (hex ++ rest) := by
  unfold lowHalf? at h
  split at h
  · next after =>
    obtain ⟨hfour, hlow⟩ := Option.filter_eq_some_iff.1 h
    obtain ⟨hex, hhex, rfl⟩ := split_of_hexFour? hfour
    exact ⟨hex, hhex, by simpa using hlow, rfl⟩
  · cases h

theorem lowHalf?_of_append {s after : List Char} (h : lowHalf? (s ++ after) = none) : lowHalf? s = none := by
  cases hs : lowHalf? s with
  | none => rfl
  | some found =>
    obtain ⟨n, t⟩ := found
    obtain ⟨hex, hhex, hlow, rfl⟩ := split_of_lowHalf? hs
    simp only [List.cons_append, List.append_assoc] at h
    rw [lowHalf?_number hhex, if_pos hlow] at h
    cases h

theorem quoted_of_numbered? {c : Char} {s t : List Char} (h : numbered? cs = some (c, t ++ '"' :: rest))
    (ht : Quoted s t) : ∃ t', Quoted (c :: s) ('\\' :: 'u' :: t') ∧ cs = t' ++ '"' :: rest := by
  obtain ⟨⟨n, after⟩, hfour, hchar⟩ := Option.bind_eq_some_iff.1 h
  obtain ⟨hex, hhex, rfl⟩ := split_of_hexFour? hfour
  simp only [Bool.and_eq_true, decide_eq_true_eq] at hchar
  split at hchar
  · next hhigh =>
    split at hchar
    · next low after hlow =>
      obtain ⟨rfl, rfl⟩ := Prod.mk.inj (Option.some.inj hchar)
      obtain ⟨more, hmore, hl, rfl⟩ := split_of_lowHalf? hlow
      exact ⟨_, .pair rfl hhex hhigh hmore hl ht, by simp⟩
    · next hlow =>
      obtain ⟨rfl, rfl⟩ := Prod.mk.inj (Option.some.inj hchar)
      exact ⟨_, .alone hhex (.inl ⟨hhigh, lowHalf?_of_append hlow⟩) ht, by simp⟩
  · next hhigh =>
    split at hchar
    · next hlow =>
      obtain ⟨rfl, rfl⟩ := Prod.mk.inj (Option.some.inj hchar)
      exact ⟨_, .alone hhex (.inr hlow) ht, by simp⟩
    · next hlow =>
      obtain ⟨rfl, rfl⟩ := Prod.mk.inj (Option.some.inj hchar)
      exact ⟨_, .number hhex hhigh hlow ht, by simp⟩

theorem quoted_of_readChar? {c : Char} {s t : List Char} (h : readChar? cs = some (c, t ++ '"' :: rest))
    (hne : ∀ after, cs ≠ '"' :: after) (ht : Quoted s t) :
    ∃ t', Quoted (c :: s) t' ∧ cs = t' ++ '"' :: rest := by
  unfold readChar? at h
  split at h
  · obtain ⟨t', ht', rfl⟩ := quoted_of_numbered? h ht
    exact ⟨_, ht', rfl⟩
  · next x after _ =>
    obtain ⟨d, hd, heq⟩ := Option.map_eq_some_iff.1 h
    obtain ⟨rfl, rfl⟩ := Prod.mk.inj heq
    exact ⟨'\\' :: x :: t, .letter hd ht, rfl⟩
  · cases h
  · next d after hbackslash hend _ =>
    split at h
    · cases h
    · next hc =>
      obtain ⟨rfl, rfl⟩ := Prod.mk.inj (Option.some.inj h)
      refine ⟨d :: t, .plain (fun hq => ?_) (fun hs => ?_) (Nat.not_lt.1 hc) ht, rfl⟩
      · exact hne _ (by rw [hq])
      · -- the last character read is no lone backslash: a quote follows it at the latest
        obtain ⟨a, as, hcons⟩ : ∃ a as, t ++ '"' :: rest = a :: as := by cases t <;> exact ⟨_, _, rfl⟩
        exact hend a as hs hcons
  · cases h

theorem quoted_of_readStringWith {fuel : Nat} {s : List Char} (h : readStringWith fuel cs = some (s, rest)) :
    ∃ t, Quoted s t ∧ cs = t ++ '"' :: rest := by
  induction fuel generalizing cs s with
  | zero => cases h
  | succ fuel ih =>
    unfold readStringWith at h
    split at h
    · obtain ⟨rfl, rfl⟩ := Prod.mk.inj (Option.some.inj h)
      exact ⟨[], .nil, rfl⟩
    · next hne =>
      obtain ⟨⟨c, after⟩, hchar, h⟩ := Option.bind_eq_some_iff.1 h
      obtain ⟨⟨s', after'⟩, htail, h⟩ := Option.bind_eq_some_iff.1 h
      obtain ⟨rfl, rfl⟩ := Prod.mk.inj (Option.some.inj h)
      obtain ⟨t, ht, rfl⟩ := ih htail
      exact quoted_of_readChar? hchar hne ht

theorem quoted_of_readString {s : String} (h : readString cs = .ok (s, rest)) :
    ∃ t, Quoted s.toList t ∧ cs = t ++ '"' :: rest := by
  unfold readString at h
  split at h
  · next hread =>
    obtain ⟨rfl, rfl⟩ := Prod.mk.inj (Except.ok.inj h)
    rw [String.toList_ofList]
    exact quoted_of_readStringWith hread
  · cases h

theorem gap_dropGap (cs : List Char) : ∃ g, Gap g ∧ cs = g ++ dropGap cs :=
  ⟨cs.takeWhile isGap, fun _ hc => mem_takeWhile hc, List.takeWhile_append_dropWhile.symm⟩

theorem member_of_readKey {key : String} (h : readKey cs = .ok (key, rest)) :
    ∃ t after g, Quoted key.toList t ∧ Gap after ∧ Gap g ∧
      cs = '"' :: (t ++ '"' :: (after ++ ':' :: (g ++ rest))) := by
  unfold readKey at h
  split at h
  · next after =>
    obtain ⟨⟨s, after'⟩, hstring, hfield⟩ := exists_of_bind_ok h
    dsimp only at hfield
    obtain ⟨between, hbetween, hsplit⟩ := gap_dropGap after'
    split at hfield
    · next colon hcolon =>
      obtain ⟨rfl, rfl⟩ := Prod.mk.inj (Except.ok.inj hfield)
      obtain ⟨t, ht, rfl⟩ := quoted_of_readString hstring
      obtain ⟨g, hg, hgap⟩ := gap_dropGap colon
      rw [hcolon] at hsplit
      exact ⟨t, between, g, ht, hbetween, hg, by rw [← hgap, ← hsplit]⟩
    · cases hfield
  · cases h

/-- A text begins with the items of an array and goes on after the bracket that closes it. -/
def ItemsBefore (depth : Nat) (rest : List Char) (vs : List Json) (text : List Char) : Prop :=
  ∃ slots : List Slot, slots ≠ [] ∧ (∀ s ∈ slots, Gap s.before ∧ Gap s.after) ∧
    (∀ s ∈ slots, Spells .short depth s.value s.text) ∧ vs = slots.map Slot.value ∧
    text = withCommas (slots.map Slot.spelled) ++ ']' :: rest

/-- A text begins with fields, which are put after some others, and goes on after the bracket that closes
their object. -/
def FieldsBefore (depth : Nat) (rest : List Char) (before fs : List (String × Json)) (text : List Char) : Prop :=
  ∃ members : List Member, members ≠ [] ∧
    (∀ m ∈ members, Gap m.before ∧ Quoted m.key.toList m.text ∧ Gap m.after) ∧
    (∀ m ∈ members, Gap m.slot.before ∧ Gap m.slot.after) ∧
    (∀ m ∈ members, Spells .short depth m.slot.value m.slot.text) ∧
    fs = (members.map Member.field).foldl (fun before f => putField f.1 f.2 before) before ∧
    text = withCommas (members.map Member.spelled) ++ '\x7d' :: rest

/-- What the reader does with a value, with the items of an array and with the fields of an object, when
it may take so many steps. -/
structure SoundWithin (fuel : Nat) : Prop where
  value : ∀ {room : Nat} {cs rest : List Char} {v : Json}, readValue room fuel cs = .ok (v, rest) →
    ∃ t, cs = t ++ rest ∧ Spells .short room v t
  items : ∀ {room : Nat} {cs rest : List Char} {vs : List Json}, readItems room fuel cs = .ok (vs, rest) →
    ∀ g, Gap g → ItemsBefore room rest vs (g ++ cs)
  fields : ∀ {room : Nat} {cs rest : List Char} {before fs : List (String × Json)},
    readFields room fuel before cs = .ok (fs, rest) → ∀ g, Gap g → FieldsBefore room rest before fs (g ++ cs)

theorem nest_eq_ok_iff {inner : Nat} : nest room = .ok inner ↔ room = inner + 1 := by
  cases room with
  | zero => simp [nest]
  | succ room => simp [nest]

theorem value_sound {fuel : Nat} (ih : SoundWithin fuel) {v : Json}
    (h : readValue room (fuel + 1) cs = .ok (v, rest)) :
    ∃ t, cs = t ++ rest ∧ Spells .short room v t := by
  unfold readValue at h
  split at h
  · obtain ⟨⟨s, after⟩, hstring, h⟩ := exists_of_bind_ok h
    obtain ⟨rfl, rfl⟩ := Prod.mk.inj (Except.ok.inj h)
    obtain ⟨t, ht, rfl⟩ := quoted_of_readString hstring
    exact ⟨'"' :: (t ++ ['"']), by simp, .str ht⟩
  · next after =>
    obtain ⟨inner, hinner, hinside⟩ := exists_of_bind_ok h
    obtain rfl := nest_eq_ok_iff.1 hinner
    obtain ⟨g, hg, hsplit⟩ := gap_dropGap after
    split at hinside
    · next hclose =>
      obtain ⟨rfl, rfl⟩ := Prod.mk.inj (Except.ok.inj hinside)
      rw [hclose] at hsplit
      exact ⟨'[' :: (g ++ [']']), by simp [hsplit], .noItems hg⟩
    · obtain ⟨⟨items, after'⟩, hitems, hinside⟩ := exists_of_bind_ok hinside
      obtain ⟨rfl, rfl⟩ := Prod.mk.inj (Except.ok.inj hinside)
      obtain ⟨slots, hne, hgaps, hspells, rfl, htext⟩ := ih.items hitems g hg
      refine ⟨'[' :: (withCommas (slots.map Slot.spelled) ++ [']']), ?_, .arr hne hgaps hspells⟩
      rw [hsplit, htext]
      simp
  · next after =>
    obtain ⟨inner, hinner, hinside⟩ := exists_of_bind_ok h
    obtain rfl := nest_eq_ok_iff.1 hinner
    obtain ⟨g, hg, hsplit⟩ := gap_dropGap after
    split at hinside
    · next hclose =>
      obtain ⟨rfl, rfl⟩ := Prod.mk.inj (Except.ok.inj hinside)
      rw [hclose] at hsplit
      exact ⟨'\x7b' :: (g ++ ['\x7d']), by simp [hsplit], .noFields hg⟩
    · obtain ⟨⟨fields, after'⟩, hfields, hinside⟩ := exists_of_bind_ok hinside
      obtain ⟨rfl, rfl⟩ := Prod.mk.inj (Except.ok.inj hinside)
      obtain ⟨members, hne, hkeys, hgaps, hspells, rfl, htext⟩ := ih.fields hfields g hg
      refine ⟨'\x7b' :: (withCommas (members.map Member.spelled) ++ ['\x7d']), ?_,
        .obj hne hkeys hgaps hspells⟩
      rw [hsplit, htext]
      simp
  · exact spells_of_readSimple h

theorem items_sound {fuel : Nat} (ih : SoundWithin fuel) {vs : List Json}
    (h : readItems room (fuel + 1) cs = .ok (vs, rest)) (g : List Char) (hg : Gap g) :
    ItemsBefore room rest vs (g ++ cs) := by
  unfold readItems at h
  obtain ⟨⟨v, after⟩, hvalue, hmore⟩ := exists_of_bind_ok h
  obtain ⟨t, rfl, ht⟩ := ih.value hvalue
  obtain ⟨between, hbetween, hsplit⟩ := gap_dropGap after
  dsimp only at hmore
  split at hmore
  · next hclose =>
    obtain ⟨rfl, rfl⟩ := Prod.mk.inj (Except.ok.inj hmore)
    refine ⟨[⟨v, g, t, between⟩], by simp, by simp [hg, hbetween], by simpa using ht, rfl, ?_⟩
    rw [hsplit, hclose]
    simp [withCommas, Slot.spelled]
  · next more hcomma =>
    obtain ⟨⟨items, after'⟩, hitems, heq⟩ := exists_of_bind_ok hmore
    obtain ⟨rfl, rfl⟩ := Prod.mk.inj (Except.ok.inj heq)
    obtain ⟨g', hg', hnext⟩ := gap_dropGap more
    obtain ⟨slots, hne, hgaps, hspells, rfl, htext⟩ := ih.items hitems g' hg'
    refine ⟨⟨v, g, t, between⟩ :: slots, by simp, ?_, ?_, rfl, ?_⟩
    · exact List.forall_mem_cons.2 ⟨⟨hg, hbetween⟩, hgaps⟩
    · exact List.forall_mem_cons.2 ⟨ht, hspells⟩
    · obtain ⟨s, slots, rfl⟩ := List.exists_cons_of_ne_nil hne
      rw [hsplit, hcomma, hnext, htext]
      simp [withCommas, Slot.spelled]
  · cases hmore

theorem fields_sound {fuel : Nat} (ih : SoundWithin fuel) {before fs : List (String × Json)}
    (h : readFields room (fuel + 1) before cs = .ok (fs, rest)) (g : List Char) (hg : Gap g) :
    FieldsBefore room rest before fs (g ++ cs) := by
  unfold readFields at h
  obtain ⟨⟨key, after⟩, hkey, hfield⟩ := exists_of_bind_ok h
  obtain ⟨⟨v, after'⟩, hvalue, hmore⟩ := exists_of_bind_ok hfield
  obtain ⟨t, afterKey, g₁, ht, hafter, hg₁, rfl⟩ := member_of_readKey hkey
  obtain ⟨text, rfl, hv⟩ := ih.value hvalue
  obtain ⟨between, hbetween, hsplit⟩ := gap_dropGap after'
  dsimp only at hmore
  split at hmore
  · next hclose =>
    obtain ⟨rfl, rfl⟩ := Prod.mk.inj (Except.ok.inj hmore)
    refine ⟨[⟨key, g, t, afterKey, ⟨v, g₁, text, between⟩⟩], by simp, by simp [hg, ht, hafter],
      by simp [hg₁, hbetween], by simpa using hv, rfl, ?_⟩
    rw [hsplit, hclose]
    simp [withCommas, Member.spelled, Slot.spelled]
  · next more hcomma =>
    obtain ⟨g', hg', hnext⟩ := gap_dropGap more
    obtain ⟨members, hne, hkeys, hgaps, hspells, rfl, htext⟩ := ih.fields hmore g' hg'
    refine ⟨⟨key, g, t, afterKey, ⟨v, g₁, text, between⟩⟩ :: members, by simp, ?_, ?_, ?_, rfl, ?_⟩
    · exact List.forall_mem_cons.2 ⟨⟨hg, ht, hafter⟩, hkeys⟩
    · exact List.forall_mem_cons.2 ⟨⟨hg₁, hbetween⟩, hgaps⟩
    · exact List.forall_mem_cons.2 ⟨hv, hspells⟩
    · obtain ⟨m, members, rfl⟩ := List.exists_cons_of_ne_nil hne
      rw [hsplit, hcomma, hnext, htext]
      simp [withCommas, Member.spelled, Slot.spelled]
  · cases hmore

theorem soundWithin (fuel : Nat) : SoundWithin fuel := by
  induction fuel with
  | zero => exact ⟨nofun, nofun, nofun⟩
  | succ fuel ih => exact ⟨value_sound ih, items_sound ih, fields_sound ih⟩

/-- The reader gives a value just for the short texts that write it with so many brackets within each other. -/
theorem read_eq_ok_iff {v : Json} : readWithin room cs = .ok v ↔ Document .short room v cs := by
  refine ⟨fun h => ?_, fun h => h.read (Nat.le_refl room)⟩
  unfold readWithin at h
  obtain ⟨⟨w, after⟩, hvalue, h⟩ := exists_of_bind_ok h
  obtain ⟨before, hbefore, hsplit⟩ := gap_dropGap cs
  obtain ⟨t, htext, ht⟩ := (soundWithin _).value hvalue
  dsimp only at h
  split at h
  · next hend =>
    obtain rfl := Except.ok.inj h
    obtain ⟨g, hg, hrest⟩ := gap_dropGap after
    rw [List.isEmpty_iff.1 hend, List.append_nil] at hrest
    refine ⟨⟨w, before, t, after⟩, rfl, hbefore, hrest ▸ hg, ht, ?_⟩
    rw [hsplit, htext]
    rfl
  · cases h

end Stencil.Json
