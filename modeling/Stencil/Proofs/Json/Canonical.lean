import Stencil.Proofs.Json.Complete
import Stencil.Proofs.Json.Scalar
/-!
# Canonical text is read back

The canonical text of a value belongs to the grammar without white space. It is read as that value, with the
fields of each object in the order of their keys, and it holds no control character.
-/

namespace Stencil.Json

open Text Number

/-- Values that can be read again: no number is floating or has too many digits, and no key stands
twice in an object. -/
inductive Exact : Json → Prop where
  | null : Exact .null
  | bool (b : Bool) : Exact (.bool b)
  | int {n : Int} (h : (digits n.natAbs).length ≤ digitLimit) : Exact (.int n)
  | str (s : String) : Exact (.str s)
  | arr {items : List Json} (h : ∀ v ∈ items, Exact v) : Exact (.arr items)
  | obj {fields : List (String × Json)} (keys : (fields.map Prod.fst).Nodup)
      (h : ∀ f ∈ fields, Exact f.2) : Exact (.obj fields)

@[simp] theorem exact_null : Exact .null := .null

@[simp] theorem exact_bool (b : Bool) : Exact (.bool b) := .bool b

@[simp] theorem exact_str (s : String) : Exact (.str s) := .str s

@[simp] theorem exact_int_iff {n : Int} : Exact (.int n) ↔ (digits n.natAbs).length ≤ digitLimit :=
  ⟨fun | .int h => h, .int⟩

@[simp] theorem exact_arr_iff {items : List Json} : Exact (.arr items) ↔ ∀ v ∈ items, Exact v :=
  ⟨fun | .arr h => h, .arr⟩

@[simp] theorem exact_obj_iff {fields : List (String × Json)} :
    Exact (.obj fields) ↔ (fields.map Prod.fst).Nodup ∧ ∀ f ∈ fields, Exact f.2 :=
  ⟨fun | .obj keys h => ⟨keys, h⟩, fun ⟨keys, h⟩ => .obj keys h⟩

mutual

/-- A value with the fields of each object in the order of their keys. -/
def sorted : Json → Json
  | arr items => arr (sortedItems items)
  | obj fields => obj (sortFields (sortedFields fields))
  | v => v

def sortedItems : List Json → List Json
  | [] => []
  | v :: rest => sorted v :: sortedItems rest

def sortedFields : List (String × Json) → List (String × Json)
  | [] => []
  | (key, v) :: rest => (key, sorted v) :: sortedFields rest

end

theorem sortedItems_eq_map (items : List Json) : sortedItems items = items.map sorted := by
  induction items with
  | nil => rfl
  | cons v rest ih => simp [sortedItems, ih]

theorem sortedFields_eq_map (fields : List (String × Json)) :
    sortedFields fields = fields.map fun f => (f.1, sorted f.2) := by
  induction fields with
  | nil => rfl
  | cons f rest ih => simp [sortedFields, ih]

theorem writeItems_eq_map (items : List Json) : writeItems items = items.map write := by
  induction items with
  | nil => rfl
  | cons v rest ih => simp [writeItems, ih]

theorem writeValues_eq_map (fields : List (String × Json)) :
    writeValues fields = fields.map fun f => (f.1, write f.2) := by
  induction fields with
  | nil => rfl
  | cons f rest ih => simp [writeValues, ih]

theorem sortFields_map {α β : Type} (g : α → β) (fields : List (String × α)) :
    sortFields (fields.map fun f => (f.1, g f.2)) = (sortFields fields).map fun f => (f.1, g f.2) := by
  unfold sortFields
  rw [List.map_mergeSort]
  intro _ _ _ _
  rfl

theorem sortFields_perm {α : Type} (fields : List (String × α)) : (sortFields fields).Perm fields :=
  List.mergeSort_perm ..

theorem sortFields_of_pairwise {α : Type} {fields : List (String × α)}
    (h : (fields.map Prod.fst).Pairwise fun a b => ¬b < a) : sortFields fields = fields := by
  apply List.mergeSort_of_pairwise
  simpa only [Bool.not_eq_true', decide_eq_false_iff_not] using List.pairwise_map.1 h

theorem putField_new {key : String} {v : Json} {fields : List (String × Json)}
    (h : key ∉ fields.map Prod.fst) : putField key v fields = fields ++ [(key, v)] := by
  induction fields with
  | nil => rfl
  | cons f more ih =>
    simp only [List.map_cons, List.mem_cons, not_or] at h
    simp [putField, Ne.symm h.1, ih h.2]

theorem ofFields_eq_self {fields : List (String × Json)} (keys : (fields.map Prod.fst).Nodup) :
    ofFields fields = fields := by
  have put (before : List (String × Json)) (h : ((before ++ fields).map Prod.fst).Nodup) :
      fields.foldl (fun before f => putField f.1 f.2 before) before = before ++ fields := by
    induction fields generalizing before with
    | nil => simp
    | cons f more ih =>
      have hnew : f.1 ∉ before.map Prod.fst := by
        rw [List.map_append] at h
        intro hmem
        exact (List.nodup_append.1 h).2.2 _ hmem f.1 (by simp) rfl
      rw [List.foldl_cons, putField_new hnew, ih (List.nodup_cons.1 keys).2 _ (by simpa using h)]
      simp
  exact put [] (by simpa using keys)

def fieldText (f : String × Json) : List Char := writeField (f.1, write f.2)

theorem write_obj (fields : List (String × Json)) :
    write (.obj fields) =
      '\x7b' :: (withCommas ((sortFields fields).map fieldText) ++ ['\x7d']) := by
  rw [write, writeValues_eq_map, sortFields_map, List.map_map]
  rfl

theorem sorted_obj (fields : List (String × Json)) :
    sorted (.obj fields) = .obj ((sortFields fields).map fun f => (f.1, f.2.sorted)) := by
  rw [sorted, sortedFields_eq_map, sortFields_map]

def slotOf (v : Json) : Slot := ⟨v.sorted, [], write v, []⟩

def memberOf (f : String × Json) : Member := ⟨f.1, [], f.1.toList.flatMap escapeChar, [], slotOf f.2⟩

@[simp] theorem spelled_slotOf (v : Json) : (slotOf v).spelled = write v := by simp [Slot.spelled, slotOf]

@[simp] theorem spelled_memberOf (f : String × Json) : (memberOf f).spelled = fieldText f := by
  simp [Member.spelled, memberOf, fieldText, writeField, writeString]

theorem spells_items {n : Nat} {items : List Json} (h : ∀ v ∈ items, Spells .compact n v.sorted (write v)) :
    Spells .compact (n + 1) (.arr (items.map sorted)) ('[' :: (withCommas (items.map write) ++ [']'])) := by
  cases items with
  | nil => exact .noItems rfl
  | cons v more =>
    have hspells := @Spells.arr .compact n ((v :: more).map slotOf) (by simp)
      (fun s hs => by obtain ⟨w, -, rfl⟩ := List.mem_map.1 hs; exact ⟨rfl, rfl⟩)
      (fun s hs => by obtain ⟨w, hw, rfl⟩ := List.mem_map.1 hs; exact h w hw)
    have htext : Slot.spelled ∘ slotOf = write := funext spelled_slotOf
    rwa [List.map_map, List.map_map, htext] at hspells

theorem spells_fields {n : Nat} {fields : List (String × Json)} (keys : (fields.map Prod.fst).Nodup)
    (h : ∀ f ∈ fields, Spells .compact n f.2.sorted (write f.2)) :
    Spells .compact (n + 1) (.obj (fields.map fun f => (f.1, f.2.sorted)))
      ('\x7b' :: (withCommas (fields.map fieldText) ++ ['\x7d'])) := by
  cases fields with
  | nil => exact .noFields rfl
  | cons f more =>
    have hspells := @Spells.obj .compact n ((f :: more).map memberOf) (by simp)
      (fun m hm => by obtain ⟨g, -, rfl⟩ := List.mem_map.1 hm; exact ⟨rfl, quoted_escaped _, rfl⟩)
      (fun m hm => by obtain ⟨g, -, rfl⟩ := List.mem_map.1 hm; exact ⟨rfl, rfl⟩)
      (fun m hm => by obtain ⟨g, hg, rfl⟩ := List.mem_map.1 hm; exact h g hg)
    have htext : Member.spelled ∘ memberOf = fieldText := funext spelled_memberOf
    have hkeys : (((f :: more).map fun f => (f.1, f.2.sorted)).map Prod.fst).Nodup := by
      simpa [Function.comp_def] using keys
    rw [List.map_map, List.map_map, htext] at hspells
    exact ofFields_eq_self hkeys ▸ hspells

theorem Exact.spells {v : Json} (hv : Exact v) {n : Nat} (hn : v.depth ≤ n) :
    Spells .compact n v.sorted (write v) := by
  induction hv generalizing n with
  | null => exact .word (by simp [words, sorted, write])
  | bool b => cases b <;> exact .word (by simp [words, sorted, write])
  | int h => exact spells_signed h
  | str s => exact .str (quoted_escaped s.toList)
  | arr _ ih =>
    obtain ⟨n, rfl⟩ := Nat.exists_eq_add_of_lt hn
    have hitems := depthItems_le_iff.1 (Nat.le_of_succ_le_succ hn)
    rw [write, writeItems_eq_map, sorted, sortedItems_eq_map]
    exact spells_items fun v hv => ih v hv (hitems v hv)
  | @obj fields keys _ ih =>
    obtain ⟨n, rfl⟩ := Nat.exists_eq_add_of_lt hn
    have hvalues := depthFields_le_iff.1 (Nat.le_of_succ_le_succ hn)
    have hperm := sortFields_perm fields
    rw [write_obj, sorted_obj]
    refine spells_fields ((hperm.map Prod.fst).nodup_iff.2 keys) fun f hm => ?_
    have hf := hperm.mem_iff.1 hm
    exact ih f hf (hvalues f hf)

theorem compact_within_short : Form.Within .compact .short where
  gap := by
    rintro s rfl c hc
    cases hc
  whole := fun _ h => h

theorem read_write {v : Json} (hv : Exact v) {room : Nat} (hroom : v.depth ≤ room) :
    readWithin room (write v) = .ok v.sorted :=
  (((hv.spells hroom).mono compact_within_short).document gap_nil).read (Nat.le_refl room)

theorem printable_withCommas {texts : List (List Char)} (h : ∀ s ∈ texts, Printable s) :
    Printable (withCommas texts) := by
  induction texts with
  | nil => simp [withCommas, Printable]
  | cons s more ih =>
    cases more with
    | nil => exact h s (by simp)
    | cons t more =>
      rw [withCommas, printable_append, printable_cons]
      · exact ⟨h s (by simp), by decide, ih fun x hx => h x (by simp [hx])⟩
      · simp

theorem Exact.printable {v : Json} (hv : Exact v) : Printable (write v) := by
  induction hv with
  | null =>
    rw [write]
    simp [Printable]
  | bool b =>
    cases b with
    | true =>
      rw [write]
      simp [Printable]
    | false =>
      rw [write]
      simp [Printable]
  | @int n _ =>
    have hdigits : Printable (digits n.natAbs) := by
      intro c hc
      have := isAsciiDigit_of_mem_digits hc
      simp only [isAsciiDigit, Bool.and_eq_true, decide_eq_true_eq] at this
      omega
    rw [write, signed]
    split
    · exact printable_cons.2 ⟨by decide, hdigits⟩
    · exact hdigits
  | str s => exact printable_writeString s
  | @arr items _ ih =>
    rw [write, writeItems_eq_map, printable_cons, printable_append]
    refine ⟨by decide, printable_withCommas ?_, by simp [Printable]⟩
    intro s hs
    obtain ⟨v, hv, rfl⟩ := List.mem_map.1 hs
    exact ih v hv
  | @obj fields _ _ ih =>
    rw [write_obj, printable_cons, printable_append]
    refine ⟨by decide, printable_withCommas ?_, by simp [Printable]⟩
    intro s hs
    obtain ⟨f, hf, rfl⟩ := List.mem_map.1 hs
    have hv := ih f ((sortFields_perm fields).mem_iff.1 hf)
    exact printable_append.2 ⟨printable_writeString f.1, printable_cons.2 ⟨by decide, hv⟩⟩

end Stencil.Json
