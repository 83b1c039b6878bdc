import Stencil.Proofs.Json.Canonical
import Stencil.Proofs.Run
import Stencil.Proofs.Template.Calls
import Stencil.Template.Compile
/-!
# Artifacts are read back

The artifact of a tree is read as the same tree, and its text holds no control character. An arm that
stands where an instruction belongs is the one thing that an artifact cannot carry.
-/

namespace Stencil.Instruction

mutual

theorem exact_toJson : ∀ i : Instruction Json, Sound Json.Exact (· ≠ .null) i → (toJson i).Exact
  | literal text, h => by
    rw [toJson]
    refine .obj (by simp) ?_
    simp only [List.forall_mem_cons]
    exact ⟨h, .str _, by simp⟩
  | echo expr, h => by
    rw [toJson]
    refine .obj (by simp) ?_
    simp only [List.forall_mem_cons]
    exact ⟨h, .str _, by simp⟩
  | choose arms none, h => by
    rw [toJson]
    refine .obj (by simp) ?_
    simp only [List.forall_mem_cons]
    exact ⟨.arr (exact_armsToJson arms h), .null, .str _, by simp⟩
  | choose arms (some body), h => by
    rw [toJson]
    refine .obj (by simp) ?_
    simp only [List.forall_mem_cons]
    exact ⟨.arr (exact_armsToJson arms h.1), .arr (exact_allToJson body h.2), .str _, by simp⟩
  | loop iterable key value body, h => by
    obtain ⟨hi, hk, hv, hb⟩ := h
    have hkey : (key.getD .null).Exact := by
      cases key with
      | none => exact .null
      | some k => exact (hk k rfl).1
    rw [toJson]
    refine .obj (by simp) ?_
    simp only [List.forall_mem_cons]
    exact ⟨.arr (exact_allToJson body hb), hi, hkey, .str _, hv, by simp⟩
  | stray _, h => h.elim

theorem exact_armsToJson : ∀ arms : List (Arm Json), SoundArms Json.Exact (· ≠ .null) arms →
    ∀ v ∈ armsToJson arms, v.Exact
  | [], _ => by simp [armsToJson]
  | .mk cond body :: rest, h => by
    rw [armsToJson, armToJson]
    refine List.forall_mem_cons.2 ⟨.obj (by simp) ?_, exact_armsToJson rest h.2.2⟩
    simp only [List.forall_mem_cons]
    exact ⟨.arr (exact_allToJson body h.2.1), h.1, by simp⟩

theorem exact_allToJson : ∀ body : List (Instruction Json), SoundAll Json.Exact (· ≠ .null) body →
    ∀ v ∈ allToJson body, v.Exact
  | [], _ => by simp [allToJson]
  | i :: rest, h => by
    rw [allToJson]
    exact List.forall_mem_cons.2 ⟨exact_toJson i h.1, exact_allToJson rest h.2⟩

end

theorem sortFields_of_keys {fields : List (String × Json)} (keys : List String)
    (hkeys : fields.map Prod.fst = keys) (h : keys.Pairwise fun a b => ¬b < a) :
    Json.sortFields fields = fields := by
  subst hkeys
  exact Json.sortFields_of_pairwise h

mutual

theorem sorted_toJson : ∀ i : Instruction Json, (toJson i).sorted = toJson (map Json.sorted i)
  | literal text => by
    simp only [toJson, map, Json.sorted, Json.sortedFields]
    rw [sortFields_of_keys ["text", "type"] rfl (by decide)]
  | echo expr => by
    simp only [toJson, map, Json.sorted, Json.sortedFields]
    rw [sortFields_of_keys ["expr", "type"] rfl (by decide)]
  | choose arms none => by
    simp only [toJson, map, Json.sorted, Json.sortedFields, sorted_armsToJson arms]
    rw [sortFields_of_keys ["branches", "else", "type"] rfl (by decide)]
  | choose arms (some body) => by
    simp only [toJson, map, Json.sorted, Json.sortedFields, sorted_armsToJson arms,
      sorted_allToJson body]
    rw [sortFields_of_keys ["branches", "else", "type"] rfl (by decide)]
  | loop iterable key value body => by
    have hkey : (key.getD .null).sorted = (key.map Json.sorted).getD .null := by
      cases key <;> simp [Json.sorted]
    simp only [toJson, map, Json.sorted, Json.sortedFields, sorted_allToJson body, hkey]
    rw [sortFields_of_keys ["body", "iterable", "key", "type", "value"] rfl (by decide)]
  | stray arm => by
    rw [toJson, map, toJson]
    exact sorted_armToJson arm

theorem sorted_armToJson : ∀ arm : Arm Json, (armToJson arm).sorted = armToJson (mapArm Json.sorted arm)
  | .mk cond body => by
    simp only [armToJson, mapArm, Json.sorted, Json.sortedFields, sorted_allToJson body]
    rw [sortFields_of_keys ["body", "cond"] rfl (by decide)]

theorem sorted_armsToJson : ∀ arms : List (Arm Json),
    Json.sortedItems (armsToJson arms) = armsToJson (mapArms Json.sorted arms)
  | [] => rfl
  | arm :: rest => by
    rw [armsToJson, Json.sortedItems, mapArms, armsToJson, sorted_armToJson arm, sorted_armsToJson rest]

theorem sorted_allToJson : ∀ body : List (Instruction Json),
    Json.sortedItems (allToJson body) = allToJson (mapAll Json.sorted body)
  | [] => rfl
  | i :: rest => by
    rw [allToJson, Json.sortedItems, mapAll, allToJson, sorted_toJson i, sorted_allToJson rest]

end

theorem field?_of_require {key : String} {fields : List (String × Json)}
    {v : { v : Json // sizeOf v < sizeOf fields }} (h : Json.require key fields = .ok v) :
    Json.field? key fields = some v.val := by
  unfold Json.require at h
  split at h
  · next hv =>
    obtain rfl := Except.ok.inj h
    exact hv
  · cases h

theorem require_of_field? {key : String} {fields : List (String × Json)} {v : Json}
    (h : Json.field? key fields = some v) :
    ∃ hv, Json.require key fields = .ok ⟨v, hv⟩ := by
  refine ⟨Json.sizeOf_field? h, ?_⟩
  unfold Json.require
  split
  · next w hw =>
    obtain rfl : w = v := Option.some.inj (hw.symm.trans h)
    rfl
  · next hw => exact absurd (hw.symm.trans h) (by simp)

theorem present?_map_val_eq_iff {key : String} {fields : List (String × Json)} {o : Option Json} :
    (Json.present? key fields).map (·.val) = o ↔
      ∀ v, v ∈ o ↔ Json.field? key fields = some v ∧ v ≠ .null := by
  rw [Option.ext_iff]
  refine forall_congr' fun v => ?_
  suffices (Json.present? key fields).map (·.val) = some v ↔ Json.field? key fields = some v ∧ v ≠ .null by
    rw [this]
    exact Iff.comm
  unfold Json.present?
  split
  · next h => simp [h]
  · next h => simp [h, eq_comm]
  · next w hne h =>
    have hw : w ≠ .null := by simpa using hne
    simp only [h, Option.map_some, Option.some.injEq]
    exact ⟨by rintro rfl; exact ⟨rfl, hw⟩, And.left⟩

/-- What an instruction is rebuilt from, when so many calls are left for what is in it. -/
inductive Rebuilds (room : Nat) (fields : List (String × Json)) : Instruction Json → Prop where
  | literal {text : Json} (ht : Json.field? "type" fields = some (.str "literal"))
      (htext : Json.field? "text" fields = some text) : Rebuilds room fields (.literal text)
  | echo {expr : Json} (ht : Json.field? "type" fields = some (.str "echo"))
      (hexpr : Json.field? "expr" fields = some expr) : Rebuilds room fields (.echo expr)
  | choose {branches : Json} {arms : List (Arm Json)} (ht : Json.field? "type" fields = some (.str "if"))
      (hbranches : Json.field? "branches" fields = some branches) (harms : armsOfJson room branches = .ok arms)
      (helse : ∀ v, Json.field? "else" fields = some v → v = .null) : Rebuilds room fields (.choose arms none)
  | chooseElse {branches other : Json} {arms : List (Arm Json)} {body : List (Instruction Json)}
      (ht : Json.field? "type" fields = some (.str "if"))
      (hbranches : Json.field? "branches" fields = some branches) (harms : armsOfJson room branches = .ok arms)
      (helse : Json.field? "else" fields = some other) (hne : other ≠ .null)
      (hbody : bodyOfJson room other = .ok body) : Rebuilds room fields (.choose arms (some body))
  | loop {iterable value inner : Json} {key : Option Json} {body : List (Instruction Json)}
      (ht : Json.field? "type" fields = some (.str "foreach"))
      (hiterable : Json.field? "iterable" fields = some iterable)
      (hkey : ∀ k, k ∈ key ↔ Json.field? "key" fields = some k ∧ k ≠ .null)
      (hvalue : Json.field? "value" fields = some value) (hinner : Json.field? "body" fields = some inner)
      (hbody : bodyOfJson room inner = .ok body) : Rebuilds room fields (.loop iterable key value body)

variable {room : Nat} {fields : List (String × Json)}

theorem rebuilds_of_ofJson {i : Instruction Json} (h : ofJson (room + 1) (.obj fields) = .ok i) :
    Rebuilds room fields i := by
  rw [ofJson, nest] at h
  change Except.bind _ _ = _ at h
  simp only [Except.bind] at h
  split at h
  · next ht =>
    obtain ⟨text, htext, h⟩ := exists_of_bind_ok h
    obtain rfl := Except.ok.inj h
    exact .literal ht (field?_of_require htext)
  · next ht =>
    obtain ⟨expr, hexpr, h⟩ := exists_of_bind_ok h
    obtain rfl := Except.ok.inj h
    exact .echo ht (field?_of_require hexpr)
  · next ht =>
    obtain ⟨branches, hbranches, h⟩ := exists_of_bind_ok h
    obtain ⟨arms, harms, h⟩ := exists_of_bind_ok h
    split at h
    · next hp =>
      obtain rfl := Except.ok.inj h
      have helse := present?_map_val_eq_iff.1 (congrArg (Option.map (·.val)) hp)
      refine .choose ht (field?_of_require hbranches) harms fun v hv => Classical.byContradiction fun hne => ?_
      exact absurd ((helse v).2 ⟨hv, hne⟩) (by simp)
    · next other hp =>
      obtain ⟨body, hbody, h⟩ := exists_of_bind_ok h
      obtain rfl := Except.ok.inj h
      obtain ⟨helse, hne⟩ := (present?_map_val_eq_iff.1 (congrArg (Option.map (·.val)) hp) other.val).1 rfl
      exact .chooseElse ht (field?_of_require hbranches) harms helse hne hbody
  · next ht =>
    obtain ⟨iterable, hiterable, h⟩ := exists_of_bind_ok h
    obtain ⟨value, hvalue, h⟩ := exists_of_bind_ok h
    obtain ⟨inner, hinner, h⟩ := exists_of_bind_ok h
    obtain ⟨body, hbody, h⟩ := exists_of_bind_ok h
    obtain rfl := Except.ok.inj h
    exact .loop ht (field?_of_require hiterable) (present?_map_val_eq_iff.1 rfl) (field?_of_require hvalue)
      (field?_of_require hinner) hbody
  · cases h
  · cases h

theorem Rebuilds.ofJson {i : Instruction Json} (h : Rebuilds room fields i) :
    ofJson (room + 1) (.obj fields) = .ok i := by
  rw [Instruction.ofJson, nest]
  cases h with
  | literal ht htext =>
    obtain ⟨_, hr⟩ := require_of_field? htext
    simp only [bind, Except.bind, ht, hr]
  | echo ht hexpr =>
    obtain ⟨_, hr⟩ := require_of_field? hexpr
    simp only [bind, Except.bind, ht, hr]
  | choose ht hbranches harms helse =>
    obtain ⟨_, hr⟩ := require_of_field? hbranches
    have hp : (Json.present? "else" fields).map (·.val) = none := by
      apply present?_map_val_eq_iff.2
      intro v
      constructor
      · intro hv
        cases hv
      · rintro ⟨hv, hne⟩
        exact absurd (helse v hv) hne
    rw [Option.map_eq_none_iff] at hp
    simp only [bind, Except.bind, ht, hr, harms, hp]
  | @chooseElse _ other _ _ ht hbranches harms helse hne hbody =>
    obtain ⟨_, hr⟩ := require_of_field? hbranches
    have hp : (Json.present? "else" fields).map (·.val) = some other := by
      apply present?_map_val_eq_iff.2
      intro v
      rw [helse]
      simp only [Option.mem_def, Option.some.injEq]
      constructor
      · rintro rfl
        exact ⟨rfl, hne⟩
      · exact And.left
    obtain ⟨w, hw, rfl⟩ := Option.map_eq_some_iff.1 hp
    simp only [bind, Except.bind, ht, hr, harms, hw, hbody]
  | loop ht hiterable hkey hvalue hinner hbody =>
    obtain ⟨_, hri⟩ := require_of_field? hiterable
    obtain ⟨_, hrv⟩ := require_of_field? hvalue
    obtain ⟨_, hrb⟩ := require_of_field? hinner
    simp only [bind, Except.bind, ht, hri, hrv, hrb, present?_map_val_eq_iff.2 hkey, hbody]

theorem ofJson_eq_ok_iff {v : Json} {i : Instruction Json} :
    ofJson room v = .ok i ↔ ∃ inner fields, room = inner + 1 ∧ v = .obj fields ∧ Rebuilds inner fields i := by
  constructor
  · intro h
    cases room with
    | zero =>
      rw [ofJson] at h
      cases h
    | succ inner =>
      by_cases hv : ∃ fields, v = .obj fields
      · obtain ⟨fields, rfl⟩ := hv
        exact ⟨inner, fields, rfl, rfl, rebuilds_of_ofJson h⟩
      · rw [ofJson] at h
        cases v with
        | obj fields => exact absurd ⟨fields, rfl⟩ hv
        | null | bool | int | float | str | arr => cases h
  · rintro ⟨inner, fields, rfl, rfl, h⟩
    exact h.ofJson

theorem armOfJson_eq_ok_iff {v cond : Json} {body : List (Instruction Json)} :
    armOfJson room v = .ok (.mk cond body) ↔ ∃ fields inner, v = .obj fields ∧
      Json.field? "cond" fields = some cond ∧ Json.field? "body" fields = some inner ∧
      bodyOfJson room inner = .ok body := by
  constructor
  · intro h
    cases v with
    | obj fields =>
      rw [armOfJson] at h
      obtain ⟨c, hcond, h⟩ := exists_of_bind_ok h
      obtain ⟨inner, hinner, h⟩ := exists_of_bind_ok h
      obtain ⟨is, his, h⟩ := exists_of_bind_ok h
      obtain ⟨rfl, rfl⟩ := Arm.mk.inj (Except.ok.inj h)
      exact ⟨fields, inner.val, rfl, field?_of_require hcond, field?_of_require hinner, his⟩
    | null | bool | int | float | str | arr => rw [armOfJson] at h <;> simp_all
  · rintro ⟨fields, inner, rfl, hcond, hinner, hbody⟩
    obtain ⟨_, hrc⟩ := require_of_field? hcond
    obtain ⟨_, hrb⟩ := require_of_field? hinner
    rw [armOfJson, hrc, hrb]
    simp only [bind, Except.bind, hbody]

mutual

theorem ofJson_toJson {p : Json → Prop} :
    ∀ (i : Instruction Json) {room : Nat}, Sound p (· ≠ .null) i → calls i ≤ room →
      ofJson room (toJson i) = .ok i
  | literal text, room, _, hroom => by
    obtain ⟨inner, rfl⟩ := Nat.exists_eq_add_of_le' hroom
    rw [toJson]
    exact (Rebuilds.literal rfl rfl).ofJson
  | echo expr, room, _, hroom => by
    obtain ⟨inner, rfl⟩ := Nat.exists_eq_add_of_le' hroom
    rw [toJson]
    exact (Rebuilds.echo rfl rfl).ofJson
  | choose arms none, room, h, hroom => by
    obtain ⟨inner, rfl⟩ : ∃ inner, room = inner + 1 := Nat.exists_eq_add_one.2 (by rw [calls] at hroom; omega)
    have harms : armsOfJson inner _ = _ := armsOfJson_armsToJson arms h (by rw [calls] at hroom; omega)
    rw [toJson]
    exact (Rebuilds.choose rfl rfl harms (by simp [Json.field?])).ofJson
  | choose arms (some body), room, h, hroom => by
    rw [calls, Nat.max_le] at hroom
    obtain ⟨inner, rfl⟩ : ∃ inner, room = inner + 1 := Nat.exists_eq_add_one.2 (by omega)
    have harms : armsOfJson inner _ = _ := armsOfJson_armsToJson arms h.1 (by omega)
    have hbody : bodyOfJson inner _ = _ := bodyOfJson_allToJson body h.2 (by omega)
    rw [toJson]
    exact (Rebuilds.chooseElse rfl rfl harms rfl (by simp) hbody).ofJson
  | loop iterable key value body, room, h, hroom => by
    rw [calls] at hroom
    obtain ⟨inner, rfl⟩ : ∃ inner, room = inner + 1 := Nat.exists_eq_add_one.2 (by omega)
    have hbody : bodyOfJson inner _ = _ := bodyOfJson_allToJson body h.2.2.2 (by omega)
    have hkey (k : Json) : k ∈ key ↔ some (key.getD .null) = some k ∧ k ≠ .null := by
      cases key with
      | none => simp [eq_comm]
      | some given =>
        simp only [Option.mem_def, Option.getD_some]
        exact ⟨fun hk => ⟨hk, (h.2.1 k hk).2⟩, And.left⟩
    rw [toJson]
    exact (Rebuilds.loop rfl rfl hkey rfl rfl hbody).ofJson
  | stray _, _, h, _ => h.elim

theorem armsOfJson_armsToJson {p : Json → Prop} (arms : List (Arm Json)) {room : Nat}
    (h : SoundArms p (· ≠ .null) arms) (hroom : callsArms arms + 1 ≤ room) :
    armsOfJson room (.arr (armsToJson arms)) = .ok arms := by
  obtain ⟨inner, rfl⟩ : ∃ inner, room = inner + 1 := Nat.exists_eq_add_one.2 (by omega)
  rw [armsOfJson, nest]
  exact armsOfItems_armsToJson arms h (by omega)

theorem armsOfItems_armsToJson {p : Json → Prop} :
    ∀ (arms : List (Arm Json)) {room : Nat}, SoundArms p (· ≠ .null) arms → callsArms arms ≤ room →
      armsOfItems room (armsToJson arms) = .ok arms
  | [], _, _, _ => by rw [armsToJson, armsOfItems]
  | .mk cond body :: rest, room, h, hroom => by
    rw [callsArms, Nat.max_le] at hroom
    have hbody := bodyOfJson_allToJson body h.2.1 hroom.1
    have hrest := armsOfItems_armsToJson rest h.2.2 hroom.2
    rw [armsToJson, armToJson, armsOfItems, armOfJson_eq_ok_iff.2 ⟨_, _, rfl, rfl, rfl, hbody⟩, hrest]
    rfl

theorem bodyOfJson_allToJson {p : Json → Prop} (body : List (Instruction Json)) {room : Nat}
    (h : SoundAll p (· ≠ .null) body) (hroom : callsAll body + 2 ≤ room) :
    bodyOfJson room (.arr (allToJson body)) = .ok body := by
  obtain ⟨inner, rfl⟩ := Nat.exists_eq_add_of_le' (Nat.le_of_add_left_le hroom)
  rw [bodyOfJson]
  exact bodyOfItems_allToJson body h (by omega)

theorem bodyOfItems_allToJson {p : Json → Prop} :
    ∀ (body : List (Instruction Json)) {room : Nat}, SoundAll p (· ≠ .null) body → callsAll body ≤ room →
      bodyOfItems room (allToJson body) = .ok body
  | [], _, _, _ => by rw [allToJson, bodyOfItems]
  | i :: rest, room, h, hroom => by
    rw [callsAll, Nat.max_le] at hroom
    rw [allToJson, bodyOfItems, ofJson_toJson i h.1 hroom.1, bodyOfItems_allToJson rest h.2 hroom.2]
    rfl

end

end Stencil.Instruction

namespace Stencil.Template

open Instruction

/-- The trees whose artifacts are read back: without stray arms, their fields exact and no key null. -/
abbrev Readable (body : List (Instruction Json)) : Prop := SoundAll Json.Exact (· ≠ .null) body

theorem formatVersion_short : (Number.digits formatVersion.natAbs).length ≤ Number.digitLimit := by
  simp [formatVersion, Number.digits, Number.digitsBefore, Number.digitLimit]

theorem Readable.exact {body : List (Instruction Json)} (h : Readable body) :
    (toJson body).Exact := by
  rw [toJson]
  refine .obj (by simp) ?_
  simp only [List.forall_mem_cons]
  exact ⟨.arr (exact_allToJson body h), .int formatVersion_short, by simp⟩

theorem sorted_toJson (body : List (Instruction Json)) :
    (toJson body).sorted = toJson (mapAll Json.sorted body) := by
  simp only [toJson, Json.sorted, Json.sortedFields, sorted_allToJson body]
  rw [sortFields_of_keys ["nodes", "version"] rfl (by decide)]

theorem ofJson_toJson {p : Json → Prop} {body : List (Instruction Json)} {room : Nat}
    (h : SoundAll p (· ≠ .null) body) (hroom : calls body ≤ room) : ofJson room (toJson body) = .ok body := by
  have hn : Json.field? "nodes" [("nodes", .arr (allToJson body)), ("version", .int formatVersion)] =
      some (.arr (allToJson body)) := rfl
  obtain ⟨_, hr⟩ := require_of_field? hn
  rw [toJson, ofJson]
  simp only [Json.field?, hr, bind, Except.bind]
  rw [bodyOfJson_allToJson body h hroom]
  rfl

theorem sorted_ne_null {v : Json} (h : v ≠ .null) : v.sorted ≠ .null := by
  cases v <;> simp_all [Json.sorted]

theorem load_dump {body : List (Instruction Json)} {room : Nat} (h : Readable body)
    (hdepth : (toJson body).depth ≤ room) (hcalls : calls body ≤ room) :
    loadWithin room (dump body) = .ok (mapAll Json.sorted body) := by
  have hsound : SoundAll (fun _ => True) (· ≠ .null) (mapAll Json.sorted body) :=
    soundAll_map (t := (· ≠ Json.null)) (fun _ _ => trivial) (fun _ hv => sorted_ne_null hv) body h
  rw [loadWithin, dump, Json.text, String.toList_ofList, Json.read_write h.exact hdepth, sorted_toJson]
  exact ofJson_toJson hsound (by rwa [calls_map])

theorem printable_dump {body : List (Instruction Json)} (h : Readable body) :
    Json.Printable (dump body).toList := by
  rw [dump, Json.text, String.toList_ofList]
  exact h.exact.printable

theorem readable_fields {body : Body} (h : Proper body) : Readable (fields body) :=
  soundAll_map (f := Json.str) (r := Json.Exact) (t := (· ≠ Json.null)) (fun s _ => .str s)
    (fun _ _ => by simp) body h

@[simp] theorem sorted_fields (body : Body) : mapAll Json.sorted (fields body) = fields body := by
  rw [fields, mapAll_mapAll]
  have : Json.sorted ∘ Json.str = Json.str := by
    funext s
    simp [Json.sorted]
  rw [this]

@[simp] theorem calls_fields (body : Body) : calls (fields body) = calls body := calls_map _ body

theorem depth_fields {body : Body} (h : Proper body) : (toJson (fields body)).depth ≤ calls body := by
  have hflat : SoundAll (·.depth = 0) (fun _ => True) (fields body) :=
    soundAll_map (f := Json.str) (r := (·.depth = 0)) (fun _ _ => rfl) (fun _ _ => trivial) body h
  rw [← calls_fields]
  exact depth_toJson_le hflat

theorem dump_fields {body : Body} {room : Nat} (h : Proper body) (hroom : calls body ≤ room) :
    dumpWithin room (fields body) = .ok (dump (fields body)) :=
  if_pos (Nat.le_trans (depth_fields h) hroom)

theorem load_dump_fields {body : Body} {room : Nat} (h : Proper body) (hroom : calls body ≤ room) :
    loadWithin room (dump (fields body)) = .ok (fields body) := by
  have hdepth := Nat.le_trans (depth_fields h) hroom
  rw [load_dump (readable_fields h) hdepth (by rwa [calls_fields]), sorted_fields]

def textOf : Json → String
  | .str s => s
  | _ => ""

theorem fields_injective {a b : Body} (h : fields a = fields b) : a = b := by
  have hid : textOf ∘ Json.str = id := rfl
  have := congrArg (mapAll textOf) h
  rwa [fields, fields, mapAll_mapAll, mapAll_mapAll, hid, mapAll_id, mapAll_id] at this

end Stencil.Template
