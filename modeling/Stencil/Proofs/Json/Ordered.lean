import Stencil.Proofs.Json.Canonical
import Stencil.Proofs.Json.Sound
/-!
# The order of fields

Ordering the fields of a value changes neither its text nor a value that is in order already, and what is read
without a floating point number can be written and read again.
-/

namespace Stencil.Number

theorem ofDigitsAfter_lt {n k : Nat} {ds : List Char} (hn : n < Nat.pow 10 k)
    (h : ∀ c ∈ ds, isAsciiDigit c = true) : ofDigitsAfter n ds < Nat.pow 10 (k + ds.length) := by
  induction ds generalizing n k with
  | nil => exact hn
  | cons c ds ih =>
    have hc := h c List.mem_cons_self
    have hpow : Nat.pow 10 (k + 1) = Nat.pow 10 k * 10 := rfl
    have hstep : 10 * n + digitValue c < Nat.pow 10 (k + 1) := by
      simp only [isAsciiDigit, Bool.and_eq_true, decide_eq_true_eq] at hc
      rw [digitValue, hpow]
      omega
    have hrest := ih hstep fun d hd => h d (List.mem_cons_of_mem c hd)
    rwa [List.length_cons, Nat.add_comm ds.length, ← Nat.add_assoc]

theorem length_digits_ofDigits {ds : List Char} (hne : ds ≠ []) (h : ∀ c ∈ ds, isAsciiDigit c = true) :
    (digits (ofDigits ds)).length ≤ ds.length := by
  have length_le {n k : Nat} (hn : n < Nat.pow 10 (k + 1)) (after : List Char) :
      (digitsBefore n after).length ≤ k + 1 + after.length := by
    induction k generalizing n after with
    | zero =>
      have hsmall : n < 10 := hn
      rw [digitsBefore, if_pos hsmall, List.length_cons]
      omega
    | succ k ih =>
      rw [digitsBefore]
      split
      · rw [List.length_cons]
        omega
      · have hpow : Nat.pow 10 (k + 1 + 1) = Nat.pow 10 (k + 1) * 10 := rfl
        have hrest := ih (show n / 10 < Nat.pow 10 (k + 1) by omega) (digitChar (n % 10) :: after)
        simp only [List.length_cons] at hrest
        omega
  obtain ⟨c, ds, rfl⟩ := List.exists_cons_of_ne_nil hne
  have hlt := ofDigitsAfter_lt (n := 0) (k := 0) (by decide) h
  rw [Nat.zero_add, List.length_cons] at hlt
  exact length_le hlt []

end Stencil.Number

namespace Stencil.Json

open Number

/-- Values without a floating point number. -/
inductive Integral : Json → Prop where
  | null : Integral .null
  | bool (b : Bool) : Integral (.bool b)
  | int (n : Int) : Integral (.int n)
  | str (s : String) : Integral (.str s)
  | arr {items : List Json} (h : ∀ v ∈ items, Integral v) : Integral (.arr items)
  | obj {fields : List (String × Json)} (h : ∀ f ∈ fields, Integral f.2) : Integral (.obj fields)

theorem Exact.integral {v : Json} (h : Exact v) : Integral v := by
  induction h with
  | null => exact .null
  | bool b => exact .bool b
  | int => exact .int _
  | str s => exact .str s
  | arr _ ih => exact .arr ih
  | obj _ _ ih => exact .obj ih

/-- Values whose objects have their fields in the order of their keys. -/
inductive Ordered : Json → Prop where
  | null : Ordered .null
  | bool (b : Bool) : Ordered (.bool b)
  | int (n : Int) : Ordered (.int n)
  | float (x : Float) : Ordered (.float x)
  | str (s : String) : Ordered (.str s)
  | arr {items : List Json} (h : ∀ v ∈ items, Ordered v) : Ordered (.arr items)
  | obj {fields : List (String × Json)} (keys : (fields.map Prod.fst).Pairwise (· < ·))
      (h : ∀ f ∈ fields, Ordered f.2) : Ordered (.obj fields)

@[simp] theorem ordered_null : Ordered .null := .null

@[simp] theorem ordered_int (n : Int) : Ordered (.int n) := .int n

@[simp] theorem ordered_str (s : String) : Ordered (.str s) := .str s

@[simp] theorem ordered_arr_iff {items : List Json} : Ordered (.arr items) ↔ ∀ v ∈ items, Ordered v :=
  ⟨fun | .arr h => h, .arr⟩

@[simp] theorem ordered_obj_iff {fields : List (String × Json)} :
    Ordered (.obj fields) ↔ (fields.map Prod.fst).Pairwise (· < ·) ∧ ∀ f ∈ fields, Ordered f.2 :=
  ⟨fun | .obj keys h => ⟨keys, h⟩, fun ⟨keys, h⟩ => .obj keys h⟩

theorem pairwise_sortFields {α : Type} (fields : List (String × α)) :
    ((sortFields fields).map Prod.fst).Pairwise fun a b => ¬b < a := by
  have h := @List.pairwise_mergeSort _ (fun a b : String × α => !decide (b.1 < a.1)) ?_ ?_ fields
  · rw [List.pairwise_map]
    exact h.imp fun hle => by simpa using hle
  · intro a b c hab hbc
    simp only [Bool.not_eq_true', decide_eq_false_iff_not, String.not_lt] at *
    exact String.le_trans hab hbc
  · intro a b
    simp only [Bool.or_eq_true, Bool.not_eq_true', decide_eq_false_iff_not, String.not_lt]
    exact String.le_total a.1 b.1

theorem sortFields_sortFields {α : Type} (fields : List (String × α)) :
    sortFields (sortFields fields) = sortFields fields :=
  sortFields_of_pairwise (pairwise_sortFields fields)

mutual

@[simp] theorem write_sorted : ∀ v : Json, write v.sorted = write v
  | .arr items => by rw [sorted, write, write, writeItems_sorted items]
  | .obj fields => by
    have hvalues : writeValues (sortFields (sortedFields fields)) = sortFields (writeValues fields) := by
      rw [writeValues_eq_map, ← sortFields_map, ← writeValues_eq_map, writeValues_sorted fields]
    rw [sorted, write, write, hvalues, sortFields_sortFields]
  | .null | .bool _ | .int _ | .float _ | .str _ => by rw [sorted] <;> nofun

theorem writeItems_sorted : ∀ items : List Json, writeItems (sortedItems items) = writeItems items
  | [] => rfl
  | v :: rest => by rw [sortedItems, writeItems, writeItems, write_sorted v, writeItems_sorted rest]

theorem writeValues_sorted : ∀ fields : List (String × Json),
    writeValues (sortedFields fields) = writeValues fields
  | [] => rfl
  | (key, v) :: rest => by rw [sortedFields, writeValues, writeValues, write_sorted v, writeValues_sorted rest]

end

theorem Ordered.sorted_eq {v : Json} (h : Ordered v) : v.sorted = v := by
  induction h with
  | null | bool | int | float | str => rw [sorted] <;> nofun
  | arr _ ih =>
    rw [sorted, sortedItems_eq_map, List.map_congr_left ih, List.map_id']
  | @obj fields keys _ ih =>
    have hvalues : (fields.map fun f => (f.1, f.2.sorted)) = fields := by
      rw [List.map_congr_left (g := id) fun f hf => by rw [ih f hf]; rfl, List.map_id]
    have hle := keys.imp fun hlt hgt => String.lt_irrefl _ (String.lt_trans hlt hgt)
    rw [sorted_obj, sortFields_of_pairwise hle, hvalues]

theorem Exact.ordered {v : Json} (h : Exact v) : Ordered v.sorted := by
  induction h with
  | null => exact .null
  | bool b => exact .bool b
  | int => exact .int _
  | str s => exact .str s
  | arr _ ih =>
    rw [sorted, sortedItems_eq_map]
    exact .arr (List.forall_mem_map.2 ih)
  | @obj fields keys _ ih =>
    have hperm := sortFields_perm fields
    rw [sorted_obj]
    refine .obj ?_ (List.forall_mem_map.2 fun f hf => ih f (hperm.mem_iff.1 hf))
    have hnodup := (hperm.map Prod.fst).nodup_iff.2 keys
    have hboth := (pairwise_sortFields fields).and hnodup
    rw [List.map_map]
    refine hboth.imp fun ⟨hle, hne⟩ => String.not_le.1 fun hge => hne ?_
    exact String.le_antisymm (String.not_lt.1 hle) hge

theorem Exact.sorted {v : Json} (h : Exact v) : Exact v.sorted := by
  induction h with
  | null => exact .null
  | bool b => exact .bool b
  | int h => exact .int h
  | str s => exact .str s
  | arr _ ih =>
    rw [Json.sorted, sortedItems_eq_map]
    exact .arr (List.forall_mem_map.2 ih)
  | @obj fields keys _ ih =>
    have hperm := sortFields_perm fields
    have hnodup := (hperm.map Prod.fst).nodup_iff.2 keys
    rw [sorted_obj]
    refine .obj ?_ (List.forall_mem_map.2 fun f hf => ih f (hperm.mem_iff.1 hf))
    rw [List.map_map]
    exact hnodup

theorem mem_putField {key : String} {v : Json} {fields : List (String × Json)} {f : String × Json}
    (h : f ∈ putField key v fields) : f = (key, v) ∨ f ∈ fields := by
  fun_induction putField key v fields with
  | case1 => exact .inl (List.mem_singleton.1 h)
  | case2 w rest =>
    rcases List.mem_cons.1 h with rfl | h
    · exact .inl rfl
    · exact .inr (List.mem_cons_of_mem _ h)
  | case3 k w rest _ ih =>
    rcases List.mem_cons.1 h with rfl | h
    · exact .inr List.mem_cons_self
    · exact (ih h).imp_right (List.mem_cons_of_mem _)

theorem nodup_putField {key : String} {v : Json} {fields : List (String × Json)}
    (h : (fields.map Prod.fst).Nodup) : ((putField key v fields).map Prod.fst).Nodup := by
  fun_induction putField key v fields with
  | case1 => simp
  | case2 => exact h
  | case3 k w rest hk ih =>
    obtain ⟨hnew, hrest⟩ := List.nodup_cons.1 h
    refine List.nodup_cons.2 ⟨fun hmem => ?_, ih hrest⟩
    obtain ⟨f, hf, rfl⟩ := List.mem_map.1 hmem
    rcases mem_putField hf with rfl | hf
    · exact hk rfl
    · have hkey : f.1 ∈ rest.map Prod.fst := List.mem_map_of_mem hf
      exact hnew hkey

theorem ofFields_spec (fields : List (String × Json)) :
    ((ofFields fields).map Prod.fst).Nodup ∧ ∀ f ∈ ofFields fields, f ∈ fields := by
  have put (before : List (String × Json)) (h : (before.map Prod.fst).Nodup) :
      ((fields.foldl (fun before f => putField f.1 f.2 before) before).map Prod.fst).Nodup ∧
        ∀ f ∈ fields.foldl (fun before f => putField f.1 f.2 before) before, f ∈ before ∨ f ∈ fields := by
    induction fields generalizing before with
    | nil => exact ⟨h, fun f hf => .inl hf⟩
    | cons g rest ih =>
      obtain ⟨hnodup, hmem⟩ := ih (putField g.1 g.2 before) (nodup_putField h)
      refine ⟨hnodup, fun f hf => ?_⟩
      rcases hmem f hf with hf | hf
      · rcases mem_putField hf with rfl | hf
        · exact .inr List.mem_cons_self
        · exact .inl hf
      · exact .inr (List.mem_cons_of_mem g hf)
  obtain ⟨hnodup, hmem⟩ := put [] List.nodup_nil
  exact ⟨hnodup, fun f hf => (hmem f hf).resolve_left List.not_mem_nil⟩

theorem Spells.exact {n : Nat} {v : Json} {t : List Char} (h : Spells .short n v t) (hv : v.Integral) : v.Exact := by
  induction h with
  | word h =>
    simp only [words, List.mem_cons, Prod.mk.injEq, List.not_mem_nil, or_false] at h
    rcases h with ⟨-, rfl⟩ | ⟨-, rfl⟩ | ⟨-, rfl⟩ | ⟨-, rfl⟩ | ⟨-, rfl⟩ | ⟨-, rfl⟩
    · exact .null
    · exact .bool true
    · exact .bool false
    all_goals cases hv
  | @int _ negative ds hw hf =>
    have hne : ds ≠ [] := by
      obtain ⟨c, cs, rfl⟩ := hw.eq_cons
      simp
    have hlen := length_digits_ofDigits hne hw.digits_of
    have habs : (if negative = true then -(ofDigits ds : Int) else ofDigits ds).natAbs = ofDigits ds := by
      split <;> omega
    exact .int (by rw [habs]; exact Nat.le_trans hlen hf)
  | float => cases hv
  | str => exact .str _
  | @arr _ slots _ _ _ ih =>
    cases hv with
    | arr hitems => exact .arr (List.forall_mem_map.2 fun s hs => ih s hs (hitems _ (List.mem_map_of_mem hs)))
  | noItems => exact .arr (List.forall_mem_nil _)
  | @obj _ members _ _ _ _ ih =>
    cases hv with
    | obj hfields =>
      obtain ⟨hnodup, hmem⟩ := ofFields_spec (members.map Member.field)
      refine .obj hnodup fun f hf => ?_
      obtain ⟨m, hm, rfl⟩ := List.mem_map.1 (hmem f hf)
      exact ih m hm (hfields _ hf)
  | noFields => exact .obj List.nodup_nil (List.forall_mem_nil _)

theorem Spells.depth_le {f : Form} {n : Nat} {v : Json} {t : List Char} (h : Spells f n v t) :
    v.depth ≤ n := by
  induction h with
  | word h =>
    simp only [words, List.mem_cons, Prod.mk.injEq, List.not_mem_nil, or_false] at h
    rcases h with ⟨-, rfl⟩ | ⟨-, rfl⟩ | ⟨-, rfl⟩ | ⟨-, rfl⟩ | ⟨-, rfl⟩ | ⟨-, rfl⟩ <;> exact Nat.zero_le _
  | int | float | str => exact Nat.zero_le _
  | arr _ _ _ ih => exact Nat.succ_le_succ (depthItems_le_iff.2 (List.forall_mem_map.2 ih))
  | noItems | noFields => exact Nat.succ_le_succ (Nat.zero_le _)
  | @obj _ members _ _ _ _ ih =>
    refine Nat.succ_le_succ (depthFields_le_iff.2 fun f hf => ?_)
    obtain ⟨m, hm, rfl⟩ := List.mem_map.1 ((ofFields_spec (members.map Member.field)).2 f hf)
    exact ih m hm

variable {room : Nat} {cs : List Char} {v : Json}

theorem exact_of_read (h : readWithin room cs = .ok v) (hv : v.Integral) : v.Exact := by
  obtain ⟨s, rfl, -, -, hspells, -⟩ := read_eq_ok_iff.1 h
  exact hspells.exact hv

theorem depth_of_read (h : readWithin room cs = .ok v) : v.depth ≤ room := by
  obtain ⟨s, rfl, -, -, hspells, -⟩ := read_eq_ok_iff.1 h
  exact hspells.depth_le

end Stencil.Json
