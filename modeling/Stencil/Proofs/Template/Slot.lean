import Stencil.Proofs.Text.Class
import Stencil.Template.Substitution
/-!
# Slots of a plain template

Where the slots of a text are is said without the order in which they are looked for. No two of them overlap,
so the text is in one way made of slots and of characters in no slot, and it is filled part by part.
-/

namespace Stencil.Template

open Text

/-- A slot as it is written: a key between two pairs of braces, with white space around it or without. -/
inductive IsSlot (key : List Char) : List Char → Prop where
  | mk {a b : List Char} : key ≠ [] → (∀ c ∈ key, isKeyChar c = true) → Blank a → Blank b →
      IsSlot key ('\x7b' :: '\x7b' :: (a ++ (key ++ (b ++ ['\x7d', '\x7d']))))

/-- A text has a slot with a key between two offsets. -/
def SlotAt (text : List Char) (start stop : Nat) (key : List Char) : Prop :=
  ∃ u w v, IsSlot key w ∧ text = u ++ (w ++ v) ∧ start = u.length ∧ stop = u.length + w.length

theorem isKeyChar_of_isBlank {c : Char} (h : isBlank c = true) : isKeyChar c = false := by
  have hunder : (c == '_') = false := beq_false_of_ne (by rintro rfl; revert h; decide)
  have hdash : (c == '-') = false := beq_false_of_ne (by rintro rfl; revert h; decide)
  simp only [isBlank, Bool.or_eq_true, Bool.and_eq_true, decide_eq_true_eq, beq_iff_eq] at h
  simp only [isKeyChar, hunder, hdash, Bool.or_false, Bool.or_eq_false_iff, Bool.and_eq_false_iff,
    decide_eq_false_iff_not]
  omega

theorem isBlank_of_isKeyChar {c : Char} (h : isKeyChar c = true) : isBlank c = false := by
  cases hb : isBlank c with
  | false => rfl
  | true =>
    rw [isKeyChar_of_isBlank hb] at h
    cases h

theorem stops_key {b : List Char} (hb : Blank b) (s : List Char) :
    Stops isKeyChar (b ++ '\x7d' :: s) := by
  cases b with
  | nil => exact stops_cons.2 (by decide)
  | cons c b => exact stops_cons.2 (isKeyChar_of_isBlank (hb c List.mem_cons_self))

theorem stops_blank {key : List Char} (hne : key ≠ []) (hkey : ∀ c ∈ key, isKeyChar c = true)
    (s : List Char) : Stops isBlank (key ++ s) := by
  obtain ⟨c, key, rfl⟩ := List.exists_cons_of_ne_nil hne
  exact stops_cons.2 (isBlank_of_isKeyChar (hkey c List.mem_cons_self))

variable {key key' s rest w w' u v v' : List Char}

theorem slot?_eq_some_iff : slot? s = some (key, rest) ↔ ∃ w, IsSlot key w ∧ s = w ++ rest := by
  constructor
  · intro h
    simp only [slot?, Option.bind_eq_bind, Option.bind_eq_some_iff] at h
    obtain ⟨inner, hi, h⟩ := h
    obtain ⟨a, ha, hinner⟩ := dropBlanks_split inner
    generalize dropBlanks inner = start at h hinner
    split at h
    · cases h
    · next hne =>
      obtain ⟨rest', hr, h⟩ := Option.bind_eq_some_iff.1 h
      obtain ⟨rfl, rfl⟩ := Prod.mk.inj (Option.some.inj h)
      obtain ⟨b, hb, hafter⟩ := dropBlanks_split (start.dropWhile isKeyChar)
      rw [after?_eq_some_iff.1 hr] at hafter
      refine ⟨_, .mk (by simpa using hne) (fun c hc => mem_takeWhile hc) ha hb, ?_⟩
      calc s = ['\x7b', '\x7b'] ++ (a ++ (start.takeWhile isKeyChar ++ start.dropWhile isKeyChar)) := by
            rw [after?_eq_some_iff.1 hi, hinner, List.takeWhile_append_dropWhile]
        _ = _ := by rw [hafter]; simp
  · rintro ⟨w, ⟨hne, hkey, ha, hb⟩, rfl⟩
    rename_i a b
    have hstart := stops_blank hne hkey (b ++ '\x7d' :: '\x7d' :: rest)
    have hstop := stops_key hb ('\x7d' :: rest)
    have hclose : Stops isBlank ('\x7d' :: '\x7d' :: rest) := stops_cons.2 (by decide)
    have hopen : after? ['\x7b', '\x7b'] ('\x7b' :: '\x7b' :: (a ++ (key ++ (b ++ ['\x7d', '\x7d']))) ++ rest) =
        some (a ++ (key ++ (b ++ '\x7d' :: '\x7d' :: rest))) := after?_eq_some_iff.2 (by simp)
    have hended : after? ['\x7d', '\x7d'] (dropBlanks (b ++ '\x7d' :: '\x7d' :: rest)) = some rest := by
      rw [dropBlanks_append hb hclose]
      rfl
    simp only [slot?, Option.bind_eq_bind, hopen, Option.bind_some, dropBlanks_append ha hstart,
      takeWhile_append_stop hkey hstop, dropWhile_append_stop hkey hstop, List.isEmpty_eq_false_iff.2 hne,
      Bool.false_eq_true, if_false, hended]

theorem IsSlot.shape (h : IsSlot key w) : ∃ tail, w = '\x7b' :: '\x7b' :: tail ∧ tail ≠ [] ∧ '\x7b' ∉ tail := by
  obtain ⟨hne, hkey, ha, hb⟩ := h
  rename_i a b
  refine ⟨_, rfl, by simp, ?_⟩
  simp only [List.mem_append, not_or]
  refine ⟨fun hm => ?_, fun hm => ?_, fun hm => ?_, by decide⟩
  · have := ha _ hm
    revert this
    decide
  · have := hkey _ hm
    revert this
    decide
  · have := hb _ hm
    revert this
    decide

theorem IsSlot.apart (h : IsSlot key w) (h' : IsSlot key' w') (hu : u ≠ [])
    (heq : w ++ v = u ++ (w' ++ v')) : w.length ≤ u.length := by
  obtain ⟨tail, rfl, hne, hfree⟩ := h.shape
  obtain ⟨tail', rfl, -, -⟩ := h'.shape
  rcases u with _ | ⟨c, _ | ⟨d, u⟩⟩
  · exact absurd rfl hu
  · -- one character further on, the second brace would be followed by a third
    obtain ⟨c', tail, rfl⟩ := List.exists_cons_of_ne_nil hne
    simp only [List.cons_append, List.nil_append, List.cons.injEq] at heq
    obtain ⟨-, -, rfl, -⟩ := heq
    exact absurd List.mem_cons_self hfree
  · simp only [List.cons_append, List.cons.injEq] at heq
    obtain ⟨-, -, heq⟩ := heq
    refine Nat.le_of_not_lt fun hlt => ?_
    simp only [List.length_cons] at hlt
    have hall : u ++ ['\x7b'] <+: tail ++ v := ⟨'\x7b' :: (tail' ++ v'), by rw [heq]; simp⟩
    have hfront : u ++ ['\x7b'] <+: tail := by
      refine List.prefix_of_prefix_length_le hall (List.prefix_append _ _) ?_
      rw [List.length_append, List.length_singleton]
      omega
    exact hfree (hfront.subset (by simp))

theorem IsSlot.unique (h : IsSlot key w) (h' : IsSlot key' w') (heq : w ++ v = w' ++ v') :
    key = key' ∧ w = w' ∧ v = v' := by
  have hfound : slot? (w ++ v) = some (key, v) := slot?_eq_some_iff.2 ⟨w, h, rfl⟩
  have hfound' : slot? (w ++ v) = some (key', v') := slot?_eq_some_iff.2 ⟨w', h', heq⟩
  obtain ⟨rfl, rfl⟩ := Prod.mk.inj (Option.some.inj (hfound.symm.trans hfound'))
  exact ⟨rfl, List.append_cancel_right heq, rfl⟩

theorem SlotAt.apart {text : List Char} {start stop start' stop' : Nat} (h : SlotAt text start stop key)
    (h' : SlotAt text start' stop' key') :
    (start = start' ∧ stop = stop' ∧ key = key') ∨ stop ≤ start' ∨ stop' ≤ start := by
  obtain ⟨u, w, v, hw, rfl, rfl, rfl⟩ := h
  obtain ⟨u', w', v', hw', heq, rfl, rfl⟩ := h'
  rcases List.append_eq_append_iff.1 heq with ⟨x, rfl, hx⟩ | ⟨x, rfl, hx⟩
  · by_cases hne : x = []
    · subst hne
      obtain ⟨rfl, rfl, -⟩ := hw.unique hw' hx
      exact .inl ⟨by simp, by simp, rfl⟩
    · have := hw.apart hw' hne hx
      rw [List.length_append]
      omega
  · by_cases hne : x = []
    · subst hne
      obtain ⟨rfl, rfl, -⟩ := hw'.unique hw hx
      exact .inl ⟨by simp, by simp, rfl⟩
    · have := hw'.apart hw hne hx
      rw [List.length_append]
      omega

/-- A part of a plain template: a character that stands in no slot, or a slot with its key, as it is
written. -/
inductive Part where
  | plain (c : Char)
  | slot (key written : List Char)
deriving Repr, DecidableEq

def Part.written : Part → List Char
  | .plain c => [c]
  | .slot _ written => written

/-- The parts of a text, from left to right. -/
def parts (s : List Char) : List Part :=
  match s with
  | [] => []
  | c :: after =>
    match _h : slot? (c :: after) with
    | some (key, rest) =>
      .slot key ((c :: after).take ((c :: after).length - rest.length)) :: parts rest
    | none => .plain c :: parts after
termination_by s.length
decreasing_by
  · exact length_of_slot? _h
  · simp

theorem IsSlot.begins (h : IsSlot key w) (rest : List Char) :
    ∃ c after, w ++ rest = c :: after ∧ slot? (c :: after) = some (key, rest) ∧
      (c :: after).take ((c :: after).length - rest.length) = w := by
  have hfound : slot? (w ++ rest) = some (key, rest) := slot?_eq_some_iff.2 ⟨w, h, rfl⟩
  have htake : (w ++ rest).take ((w ++ rest).length - rest.length) = w := by
    rw [List.length_append, Nat.add_sub_cancel, List.take_left]
  obtain ⟨tail, rfl, -⟩ := h.shape
  exact ⟨_, _, rfl, hfound, htake⟩

@[simp] theorem parts_nil : parts [] = [] := by rw [parts]

theorem parts_slot (h : IsSlot key w) (rest : List Char) : parts (w ++ rest) = .slot key w :: parts rest := by
  obtain ⟨c, after, hcons, hfound, htake⟩ := h.begins rest
  rw [hcons]
  rw [parts]
  split
  · next h' =>
    obtain ⟨rfl, rfl⟩ := Prod.mk.inj (Option.some.inj (h'.symm.trans hfound))
    rw [htake]
  · next h' =>
    rw [h'] at hfound
    cases hfound

theorem parts_plain {c : Char} (h : slot? (c :: s) = none) : parts (c :: s) = .plain c :: parts s := by
  rw [parts]
  split
  · next h' =>
    rw [h'] at h
    cases h
  · rfl

/-- What holds of the empty text, and of a text with a slot or with a character that begins none before it,
holds of every text. -/
theorem slot_induction {P : List Char → Prop} (nil : P [])
    (slot : ∀ {key w rest : List Char}, IsSlot key w → P rest → P (w ++ rest))
    (plain : ∀ {c : Char} {rest : List Char}, slot? (c :: rest) = none → P rest → P (c :: rest))
    (s : List Char) : P s := by
  fun_induction parts s with
  | case1 => exact nil
  | case2 c after key rest h ih =>
    obtain ⟨w, hw, heq⟩ := slot?_eq_some_iff.1 h
    rw [heq]
    exact slot hw ih
  | case3 c after h ih => exact plain h ih

theorem written_parts (s : List Char) : (parts s).flatMap Part.written = s := by
  induction s using slot_induction with
  | nil => rw [parts_nil, List.flatMap_nil]
  | slot hw ih =>
    rw [parts_slot hw, List.flatMap_cons, ih]
    rfl
  | plain h ih =>
    rw [parts_plain h, List.flatMap_cons, ih]
    rfl

theorem isSlot_of_mem (h : .slot key w ∈ parts s) : IsSlot key w := by
  induction s using slot_induction with
  | nil =>
    rw [parts_nil] at h
    cases h
  | slot hw ih =>
    rw [parts_slot hw] at h
    rcases List.mem_cons.1 h with heq | h
    · obtain ⟨rfl, rfl⟩ := Part.slot.inj heq
      exact hw
    · exact ih h
  | plain hnone ih =>
    rw [parts_plain hnone] at h
    rcases List.mem_cons.1 h with heq | h
    · cases heq
    · exact ih h

theorem exists_part (hw : IsSlot key w) (u v : List Char) :
    ∃ front, parts (u ++ (w ++ v)) = front ++ .slot key w :: parts v ∧ front.flatMap Part.written = u := by
  generalize hs : u ++ (w ++ v) = s
  induction s using slot_induction generalizing u with
  | nil =>
    obtain ⟨tail, rfl, -⟩ := hw.shape
    simp at hs
  | @slot key' w' rest hw' ih =>
    by_cases hne : u = []
    · subst hne
      obtain ⟨rfl, rfl, rfl⟩ := hw.unique hw' hs
      exact ⟨[], parts_slot hw v, rfl⟩
    · -- the slot that comes first is over before this one begins
      have hle := hw'.apart hw hne hs.symm
      obtain ⟨x, rfl⟩ : w' <+: u :=
        List.prefix_of_prefix_length_le ⟨rest, rfl⟩ ⟨w ++ v, hs⟩ hle
      rw [List.append_assoc] at hs
      obtain ⟨front, hfront, rfl⟩ := ih x (List.append_cancel_left hs)
      exact ⟨.slot key' w' :: front, by rw [parts_slot hw', hfront]; rfl, rfl⟩
  | @plain c rest hnone ih =>
    cases u with
    | nil =>
      rw [← hs, List.nil_append, slot?_eq_some_iff.2 ⟨w, hw, rfl⟩] at hnone
      cases hnone
    | cons d u =>
      obtain ⟨rfl, hrest⟩ := List.cons.inj hs
      obtain ⟨front, hfront, rfl⟩ := ih u hrest
      exact ⟨.plain d :: front, by rw [parts_plain hnone, hfront]; rfl, rfl⟩

theorem slotAt_iff {text : List Char} {start stop : Nat} : SlotAt text start stop key ↔
    ∃ front w back, parts text = front ++ .slot key w :: back ∧
      start = (front.flatMap Part.written).length ∧ stop = start + w.length := by
  constructor
  · rintro ⟨u, w, v, hw, rfl, rfl, rfl⟩
    obtain ⟨front, hfront, rfl⟩ := exists_part hw u v
    exact ⟨front, w, parts v, hfront, rfl, rfl⟩
  · rintro ⟨front, w, back, hparts, rfl, rfl⟩
    refine ⟨_, w, back.flatMap Part.written, isSlot_of_mem (s := text) (by simp [hparts]), ?_, rfl, rfl⟩
    rw [← written_parts text, hparts]
    simp [Part.written]

section

variable {m : Type → Type} [Monad m]

theorem substitute_slot (value? : String → m (Option String)) (h : IsSlot key w) (rest : List Char) :
    substitute value? (w ++ rest) = (do
      let value ← value? (String.ofList key)
      let more ← substitute value? rest
      pure ((value.map String.toList).getD w ++ more)) := by
  obtain ⟨c, after, hcons, hfound, htake⟩ := h.begins rest
  rw [hcons]
  rw [substitute]
  split
  · next h' =>
    obtain ⟨rfl, rfl⟩ := Prod.mk.inj (Option.some.inj (h'.symm.trans hfound))
    rw [htake]
  · next h' =>
    rw [h'] at hfound
    cases hfound

theorem substitute_plain {c : Char} (value? : String → m (Option String)) (h : slot? (c :: s) = none) :
    substitute value? (c :: s) = (do
      let more ← substitute value? s
      pure (c :: more)) := by
  rw [substitute]
  split
  · next h' =>
    rw [h'] at h
    cases h
  · rfl

def Part.filled (value? : String → m (Option String)) : Part → m (List Char)
  | .plain c => pure [c]
  | .slot key written => do
    let value ← value? (String.ofList key)
    pure ((value.map String.toList).getD written)

theorem substitute_eq_mapM [LawfulMonad m] (value? : String → m (Option String)) (s : List Char) :
    substitute value? s = List.flatten <$> (parts s).mapM (Part.filled value?) := by
  induction s using slot_induction with
  | nil => rw [parts_nil, substitute, List.mapM_nil, map_pure, List.flatten_nil]
  | slot hw ih =>
    rw [parts_slot hw, substitute_slot value? hw, ih, List.mapM_cons]
    simp [Part.filled]
  | plain h ih =>
    rw [parts_plain h, substitute_plain value? h, ih, List.mapM_cons]
    simp [Part.filled]

end

end Stencil.Template
