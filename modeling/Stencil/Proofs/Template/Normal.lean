import Stencil.Proofs.Json.Ordered
import Stencil.Proofs.Template.Shape
/-!
# Canonical artifacts

Writing what was read from an artifact gives a canonical one: its keys are in order, keys that are not known
are gone, and nothing that may be absent is. Reading that and writing it again changes nothing more, and the
canonical artifacts are just the texts that are left as they are.
-/

namespace Stencil.Json

mutual

inductive CanonicalNode : Json → Prop where
  | literal {text : Json} (h : text.Ordered) : CanonicalNode (.obj [("text", text), ("type", .str "literal")])
  | echo {expr : Json} (h : expr.Ordered) : CanonicalNode (.obj [("expr", expr), ("type", .str "echo")])
  | choose {arms : List Json} (harms : ∀ arm ∈ arms, CanonicalArm arm) :
      CanonicalNode (.obj [("branches", .arr arms), ("else", .null), ("type", .str "if")])
  | chooseElse {arms body : List Json} (harms : ∀ arm ∈ arms, CanonicalArm arm)
      (hbody : ∀ node ∈ body, CanonicalNode node) :
      CanonicalNode (.obj [("branches", .arr arms), ("else", .arr body), ("type", .str "if")])
  | loop {body : List Json} {iterable key value : Json} (hbody : ∀ node ∈ body, CanonicalNode node)
      (hiterable : iterable.Ordered) (hkey : key.Ordered) (hvalue : value.Ordered) :
      CanonicalNode (.obj [("body", .arr body), ("iterable", iterable), ("key", key), ("type", .str "foreach"),
        ("value", value)])

inductive CanonicalArm : Json → Prop where
  | mk {body : List Json} {cond : Json} (hbody : ∀ node ∈ body, CanonicalNode node) (hcond : cond.Ordered) :
      CanonicalArm (.obj [("body", .arr body), ("cond", cond)])

end

/-- The values of canonical artifacts. -/
inductive Canonical : Json → Prop where
  | mk {nodes : List Json} (h : ∀ node ∈ nodes, CanonicalNode node) :
      Canonical (.obj [("nodes", .arr nodes), ("version", .int formatVersion)])

theorem mem_of_field? {key : String} {fields : List (String × Json)} {v : Json}
    (h : field? key fields = some v) : (key, v) ∈ fields := by
  fun_induction field? key fields with
  | case1 => cases h
  | case2 w rest =>
    obtain rfl := Option.some.inj h
    exact List.mem_cons_self
  | case3 k w rest _ ih => exact List.mem_cons_of_mem _ (ih h)

theorem Exact.field {key : String} {fields : List (String × Json)} {v : Json} (h : Exact (.obj fields))
    (hv : field? key fields = some v) : v.Exact := by
  cases h with
  | obj _ hfields => exact hfields _ (mem_of_field? hv)

theorem depth_of_field? {key : String} {fields : List (String × Json)} {v : Json}
    (h : field? key fields = some v) : v.depth + 1 ≤ (Json.obj fields).depth :=
  Nat.succ_le_succ (depthFields_le_iff.1 (Nat.le_refl _) (key, v) (mem_of_field? h))

theorem depth_of_mem {items : List Json} {v : Json} (h : v ∈ items) : v.depth + 1 ≤ (Json.arr items).depth :=
  Nat.succ_le_succ (depthItems_le_iff.1 (Nat.le_refl _) v h)

theorem Exact.item {items : List Json} {v : Json} (h : Exact (.arr items)) (hv : v ∈ items) : v.Exact := by
  cases h with
  | arr hitems => exact hitems v hv

end Stencil.Json

namespace Stencil.Instruction

open Json

variable {φ : Type} {p q : φ → Prop}

theorem soundArms_iff {arms : List (Arm φ)} :
    SoundArms p q arms ↔ ∀ cond body, .mk cond body ∈ arms → p cond ∧ SoundAll p q body := by
  induction arms with
  | nil => exact ⟨fun _ _ _ h => absurd h List.not_mem_nil, fun _ => trivial⟩
  | cons arm rest ih =>
    obtain ⟨cond, body⟩ := arm
    rw [SoundArms, ih]
    constructor
    · rintro ⟨hcond, hbody, hrest⟩ c b hmem
      rcases List.mem_cons.1 hmem with heq | hmem
      · obtain ⟨rfl, rfl⟩ := Arm.mk.inj heq
        exact ⟨hcond, hbody⟩
      · exact hrest c b hmem
    · intro h
      have hhead := h cond body List.mem_cons_self
      exact ⟨hhead.1, hhead.2, fun c b hmem => h c b (List.mem_cons_of_mem _ hmem)⟩

theorem depthItems_allToJson_le_iff {body : List (Instruction Json)} {n : Nat} :
    depthItems (allToJson body) ≤ n ↔ ∀ i ∈ body, (toJson i).depth ≤ n := by
  induction body with
  | nil => simp [allToJson, depthItems]
  | cons i rest ih => simp [allToJson, depthItems, Nat.max_le, ih]

theorem depthItems_armsToJson_le_iff {arms : List (Arm Json)} {n : Nat} :
    depthItems (armsToJson arms) ≤ n ↔ ∀ arm ∈ arms, (armToJson arm).depth ≤ n := by
  induction arms with
  | nil => simp [armsToJson, depthItems]
  | cons arm rest ih => simp [armsToJson, depthItems, Nat.max_le, ih]

/-- What is rebuilt from a value has exact fields and no null key. It takes no more calls than there is room for,
and is written no deeper than the value was or than there is room for. -/
structure Rebuilt (v : Json) : Prop where
  node : ∀ room i, ofJson room v = .ok i →
    Sound Exact (· ≠ .null) i ∧ calls i ≤ room ∧ (toJson i).depth ≤ max v.depth room
  arm : ∀ room cond body, armOfJson room v = .ok (.mk cond body) →
    (cond.Exact ∧ SoundAll Exact (· ≠ .null) body) ∧ callsAll body + 2 ≤ room ∧
      (armToJson (.mk cond body)).depth ≤ max v.depth room

variable {room : Nat} {fields : List (String × Json)} (hexact : Exact (.obj fields))
  (ih : ∀ w : Json, sizeOf w < sizeOf (Json.obj fields) → w.Exact → Rebuilt w)

include hexact ih

theorem rebuilt_body {key : String} {v : Json} {body : List (Instruction Json)}
    (hv : field? key fields = some v) (h : bodyOfJson room v = .ok body) :
    SoundAll Exact (· ≠ .null) body ∧ callsAll body + 2 ≤ room ∧
      depthItems (allToJson body) + 2 ≤ max (v.depth + 1) room := by
  have hsize := sizeOf_field? hv
  have hv' := hexact.field hv
  rw [bodyOfJson_eq_readList] at h
  obtain ⟨inner, rfl, hitems⟩ := items_of_readList h
  have hall : ∀ i ∈ body, Sound Exact (· ≠ .null) i ∧ calls i ≤ inner ∧
      (toJson i).depth + 1 ≤ max v.depth (inner + 1) := by
    intro i hi
    obtain ⟨items, rfl, w, hw, hwi⟩ := hitems i hi
    have hmem := List.sizeOf_lt_of_mem hw
    have hdepth := depth_of_mem hw
    obtain ⟨hsound, hcalls, hle⟩ := (ih w (by simp at hsize ⊢; omega) (hv'.item hw)).node inner i hwi
    exact ⟨hsound, hcalls, by omega⟩
  refine ⟨soundAll_iff.2 fun i hi => (hall i hi).1, ?_, ?_⟩
  · exact Nat.add_le_add_right (callsAll_le_iff.2 fun i hi => (hall i hi).2.1) 2
  · have hle : depthItems (allToJson body) ≤ max v.depth (inner + 1) - 1 :=
      depthItems_allToJson_le_iff.2 fun i hi => Nat.le_sub_one_of_lt (hall i hi).2.2
    omega

theorem rebuilt_arms {key : String} {v : Json} {arms : List (Arm Json)}
    (hv : field? key fields = some v) (h : armsOfJson room v = .ok arms) :
    SoundArms Exact (· ≠ .null) arms ∧ callsArms arms + 1 ≤ room ∧
      depthItems (armsToJson arms) + 1 ≤ max v.depth room := by
  have hsize := sizeOf_field? hv
  have hv' := hexact.field hv
  rw [armsOfJson_eq_readList] at h
  obtain ⟨inner, rfl, hitems⟩ := items_of_readList h
  have hall : ∀ cond body, .mk cond body ∈ arms → (cond.Exact ∧ SoundAll Exact (· ≠ .null) body) ∧
      callsAll body + 2 ≤ inner ∧ (armToJson (.mk cond body)).depth + 1 ≤ max v.depth (inner + 1) := by
    intro cond body ha
    obtain ⟨items, rfl, w, hw, hwa⟩ := hitems _ ha
    have hmem := List.sizeOf_lt_of_mem hw
    have hdepth := depth_of_mem hw
    obtain ⟨hsound, hcalls, hle⟩ := (ih w (by simp at hsize ⊢; omega) (hv'.item hw)).arm inner cond body hwa
    exact ⟨hsound, hcalls, by omega⟩
  refine ⟨soundArms_iff.2 fun cond body ha => (hall cond body ha).1, ?_, ?_⟩
  · exact Nat.succ_le_succ (callsArms_le_iff.2 fun cond body ha => (hall cond body ha).2.1)
  · have hle : depthItems (armsToJson arms) ≤ max v.depth (inner + 1) - 1 :=
      depthItems_armsToJson_le_iff.2 fun ⟨cond, body⟩ ha => Nat.le_sub_one_of_lt (hall cond body ha).2.2
    omega

theorem rebuilt_instruction {i : Instruction Json} (h : Rebuilds room fields i) :
    Sound Exact (· ≠ .null) i ∧ calls i ≤ room + 1 ∧
      (toJson i).depth ≤ max (Json.obj fields).depth (room + 1) := by
  cases h with
  | literal ht htext =>
    have hdepth := depth_of_field? htext
    refine ⟨hexact.field htext, Nat.le_add_left 1 room, ?_⟩
    rw [depth_literal]
    omega
  | echo ht hexpr =>
    have hdepth := depth_of_field? hexpr
    refine ⟨hexact.field hexpr, Nat.le_add_left 1 room, ?_⟩
    rw [depth_echo]
    omega
  | choose ht hbranches harms helse =>
    have hdepth := depth_of_field? hbranches
    obtain ⟨hsound, hcalls, hle⟩ := rebuilt_arms hexact ih hbranches harms
    refine ⟨hsound, Nat.succ_le_succ hcalls, ?_⟩
    rw [depth_choose]
    omega
  | chooseElse ht hbranches harms helse hne hbody =>
    have hdepth := depth_of_field? hbranches
    have hdepth' := depth_of_field? helse
    obtain ⟨hsound, hcalls, hle⟩ := rebuilt_arms hexact ih hbranches harms
    obtain ⟨hsound', hcalls', hle'⟩ := rebuilt_body hexact ih helse hbody
    refine ⟨⟨hsound, hsound'⟩, ?_, ?_⟩
    · rw [calls]
      omega
    · rw [depth_chooseElse]
      omega
  | @loop iterable value inner key body ht hiterable hkey hvalue hinner hbody =>
    have hiterable' := depth_of_field? hiterable
    have hvalue' := depth_of_field? hvalue
    have hinner' := depth_of_field? hinner
    have hkey' : (key.getD .null).depth + 1 ≤ (Json.obj fields).depth := by
      cases key with
      | none => simp [depth]
      | some k => exact depth_of_field? ((hkey k).1 rfl).1
    obtain ⟨hsound, hcalls, hle⟩ := rebuilt_body hexact ih hinner hbody
    refine ⟨⟨hexact.field hiterable, fun k hk => ?_, hexact.field hvalue, hsound⟩, ?_, ?_⟩
    · obtain ⟨hfield, hne⟩ := (hkey k).1 hk
      exact ⟨hexact.field hfield, hne⟩
    · rw [calls]
      omega
    · rw [depth_loop]
      omega

theorem rebuilt_arm {cond : Json} {body : List (Instruction Json)}
    (h : armOfJson room (.obj fields) = .ok (.mk cond body)) :
    (cond.Exact ∧ SoundAll Exact (· ≠ .null) body) ∧ callsAll body + 2 ≤ room ∧
      (armToJson (.mk cond body)).depth ≤ max (Json.obj fields).depth room := by
  obtain ⟨_, inner, heq, hcond, hinner, hbody⟩ := armOfJson_eq_ok_iff.1 h
  obtain rfl := Json.obj.inj heq
  have hcond' := depth_of_field? hcond
  have hinner' := depth_of_field? hinner
  obtain ⟨hsound, hcalls, hle⟩ := rebuilt_body hexact ih hinner hbody
  refine ⟨⟨hexact.field hcond, hsound⟩, hcalls, ?_⟩
  rw [depth_arm]
  omega

omit hexact ih

theorem rebuilt (v : Json) (hv : v.Exact) : Rebuilt v := by
  refine ⟨fun room i hi => ?_, fun room cond body ha => ?_⟩
  · obtain ⟨inner, fields, rfl, rfl, h⟩ := ofJson_eq_ok_iff.1 hi
    exact rebuilt_instruction hv (fun w _ hw => rebuilt w hw) h
  · obtain ⟨fields, -, rfl, -⟩ := armOfJson_eq_ok_iff.1 ha
    exact rebuilt_arm hv (fun w _ hw => rebuilt w hw) ha
termination_by sizeOf v

mutual

theorem canonical_toJson : ∀ i : Instruction Json, Sound Ordered (fun _ => True) i → CanonicalNode (toJson i)
  | literal _, h => by rw [toJson]; exact .literal h
  | echo _, h => by rw [toJson]; exact .echo h
  | choose arms none, h => by rw [toJson]; exact .choose (canonical_armsToJson arms h)
  | choose arms (some body), h => by
    rw [toJson]
    exact .chooseElse (canonical_armsToJson arms h.1) (canonical_allToJson body h.2)
  | loop iterable key value body, h => by
    obtain ⟨hi, hk, hv, hb⟩ := h
    have hkey : (key.getD .null).Ordered := by
      cases key with
      | none => exact .null
      | some k => exact (hk k rfl).1
    rw [toJson]
    exact .loop (canonical_allToJson body hb) hi hkey hv
  | stray _, h => h.elim

theorem canonical_armsToJson : ∀ arms : List (Arm Json), SoundArms Ordered (fun _ => True) arms →
    ∀ v ∈ armsToJson arms, CanonicalArm v
  | [], _ => by simp [armsToJson]
  | .mk _ body :: rest, h => by
    rw [armsToJson, armToJson]
    exact List.forall_mem_cons.2 ⟨.mk (canonical_allToJson body h.2.1) h.1, canonical_armsToJson rest h.2.2⟩

theorem canonical_allToJson : ∀ body : List (Instruction Json), SoundAll Ordered (fun _ => True) body →
    ∀ v ∈ allToJson body, CanonicalNode v
  | [], _ => by simp [allToJson]
  | i :: rest, h => by
    rw [allToJson]
    exact List.forall_mem_cons.2 ⟨canonical_toJson i h.1, canonical_allToJson rest h.2⟩

end

theorem exists_allToJson {items : List Json}
    (h : ∀ v ∈ items, ∃ i, Sound Ordered (· ≠ .null) i ∧ toJson i = v) :
    ∃ body, SoundAll Ordered (· ≠ .null) body ∧ allToJson body = items := by
  induction items with
  | nil => exact ⟨[], trivial, rfl⟩
  | cons v rest ih =>
    obtain ⟨i, hi, rfl⟩ := h v List.mem_cons_self
    obtain ⟨body, hbody, rfl⟩ := ih fun w hw => h w (List.mem_cons_of_mem _ hw)
    exact ⟨i :: body, ⟨hi, hbody⟩, by rw [allToJson]⟩

theorem exists_armsToJson {items : List Json}
    (h : ∀ v ∈ items, ∃ cond body,
      cond.Ordered ∧ SoundAll Ordered (· ≠ .null) body ∧ armToJson (.mk cond body) = v) :
    ∃ arms, SoundArms Ordered (· ≠ .null) arms ∧ armsToJson arms = items := by
  induction items with
  | nil => exact ⟨[], trivial, rfl⟩
  | cons v rest ih =>
    obtain ⟨cond, body, hcond, hbody, rfl⟩ := h v List.mem_cons_self
    obtain ⟨arms, harms, rfl⟩ := ih fun w hw => h w (List.mem_cons_of_mem _ hw)
    exact ⟨.mk cond body :: arms, ⟨hcond, hbody, harms⟩, by rw [armsToJson]⟩

mutual

theorem exists_toJson {v : Json} (h : CanonicalNode v) : ∃ i, Sound Ordered (· ≠ .null) i ∧ toJson i = v := by
  cases h with
  | literal h => exact ⟨.literal _, h, by rw [toJson]⟩
  | echo h => exact ⟨.echo _, h, by rw [toJson]⟩
  | choose harms =>
    obtain ⟨arms, hsound, rfl⟩ := exists_armsToJson fun w hw => exists_armToJson (harms w hw)
    exact ⟨.choose arms none, hsound, by rw [toJson]⟩
  | chooseElse harms hbody =>
    obtain ⟨arms, hsound, rfl⟩ := exists_armsToJson fun w hw => exists_armToJson (harms w hw)
    obtain ⟨body, hsound', rfl⟩ := exists_allToJson fun w hw => exists_toJson (hbody w hw)
    exact ⟨.choose arms (some body), ⟨hsound, hsound'⟩, by rw [toJson]⟩
  | @loop _ iterable key value hbody hiterable hkey hvalue =>
    obtain ⟨body, hsound, rfl⟩ := exists_allToJson fun w hw => exists_toJson (hbody w hw)
    -- a key that is absent is written as null
    by_cases hnull : key = .null
    · subst hnull
      exact ⟨.loop iterable none value body, ⟨hiterable, nofun, hvalue, hsound⟩, by rw [toJson]; rfl⟩
    · refine ⟨.loop iterable (some key) value body, ⟨hiterable, ?_, hvalue, hsound⟩, by rw [toJson]; rfl⟩
      intro k hk
      obtain rfl := Option.some.inj hk
      exact ⟨hkey, hnull⟩
termination_by sizeOf v
decreasing_by all_goals simp_wf; have := List.sizeOf_lt_of_mem hw; omega

theorem exists_armToJson {v : Json} (h : CanonicalArm v) :
    ∃ cond body, cond.Ordered ∧ SoundAll Ordered (· ≠ .null) body ∧ armToJson (.mk cond body) = v := by
  cases h with
  | @mk _ cond hbody hcond =>
    obtain ⟨body, hsound, rfl⟩ := exists_allToJson fun w hw => exists_toJson (hbody w hw)
    exact ⟨cond, body, hcond, hsound, by rw [armToJson]⟩
termination_by sizeOf v
decreasing_by all_goals simp_wf; have := List.sizeOf_lt_of_mem hw; omega

end

end Stencil.Instruction

namespace Stencil.Template

open Instruction Json

variable {room : Nat}

theorem rebuilt_ofJson {v : Json} {body : List (Instruction Json)} (hv : v.Exact) (h : ofJson room v = .ok body) :
    Readable body ∧ calls body ≤ room ∧ (toJson body).depth ≤ max v.depth room := by
  unfold ofJson at h
  split at h
  · split at h
    · cases h
    · split at h
      · obtain ⟨nodes, hnodes, h⟩ := exists_of_bind_ok h
        have hfield := field?_of_require hnodes
        have hdepth := depth_of_field? hfield
        obtain ⟨hsound, hcalls, hle⟩ := rebuilt_body hv (fun w _ hw => rebuilt w hw) hfield h
        refine ⟨hsound, hcalls, ?_⟩
        rw [depth_toJson]
        omega
      · cases h
  · cases h

@[simp] theorem dump_sorted (body : List (Instruction Json)) : dump (mapAll Json.sorted body) = dump body := by
  rw [dump, dump, ← sorted_toJson, Json.text, Json.text, write_sorted]

theorem canonical_dump {body : List (Instruction Json)} (h : Readable body) :
    Canonical (toJson (mapAll Json.sorted body)) := by
  have hsound : SoundAll Ordered (fun _ => True) (mapAll Json.sorted body) :=
    soundAll_map (fun _ hv => Exact.ordered hv) (fun _ _ => trivial) body h
  exact .mk (canonical_allToJson _ hsound)

theorem loadWithin_mono {k : Nat} {text : String} {body : List (Instruction Json)}
    (h : loadWithin room text = .ok body) : loadWithin (room + k) text = .ok body := by
  obtain ⟨v, hread, h⟩ := exists_of_bind_ok h
  rw [loadWithin, (read_eq_ok_iff.1 hread).read (Nat.le_add_right room k)]
  exact ofJson_mono h

theorem dump_of_load_canonical {w : Json} {body : List (Instruction Json)} (h : Canonical w) (hw : w.Exact)
    (hload : loadWithin room w.text = .ok body) : dump body = w.text := by
  cases h with
  | mk hnodes =>
    obtain ⟨again, hsound, rfl⟩ := exists_allToJson fun v hv => exists_toJson (hnodes v hv)
    have hread : Readable again := (rebuilt_ofJson hw (ofJson_toJson hsound (Nat.le_refl _))).1
    have hagain := load_dump hread (Nat.le_max_left (toJson again).depth (calls again))
      (Nat.le_max_right (toJson again).depth (calls again))
    have hsame := (loadWithin_mono hload).symm.trans (Nat.add_comm room _ ▸ loadWithin_mono hagain)
    rw [Except.ok.inj hsame]
    exact dump_sorted again

/-- Writing what was read is a normalisation onto the canonical artifacts, in whatever room the artifact is read.
What is written is canonical and without white space. It is read as the same tree with the fields of its values in
order, which is written in the same way, and just the canonical texts are left as they are. -/
theorem dump_normalises {text : String} {v : Json} {body : List (Instruction Json)}
    (hread : Json.readWithin room text.toList = .ok v) (hv : v.Integral) (hload : loadWithin room text = .ok body) :
    (dumpWithin room body = .ok (dump body) ∧
      loadWithin room (dump body) = .ok (mapAll Json.sorted body) ∧
      dumpWithin room (mapAll Json.sorted body) = .ok (dump body)) ∧
    (∃ w, Canonical w ∧ w.Exact ∧ dump body = w.text ∧ Spells .compact room w (dump body).toList) ∧
    (dump body = text ↔ ∃ w, Canonical w ∧ w.Exact ∧ text = w.text) := by
  obtain ⟨hbody, hcalls, hdepth⟩ : Readable body ∧ calls body ≤ room ∧ (toJson body).depth ≤ room := by
    rw [loadWithin, hread] at hload
    obtain ⟨hbody, hcalls, hdepth⟩ := rebuilt_ofJson (exact_of_read hread hv) hload
    exact ⟨hbody, hcalls, Nat.le_trans hdepth (Nat.max_le.2 ⟨depth_of_read hread, Nat.le_refl room⟩)⟩
  have hspells : Spells .compact room (toJson body).sorted (dump body).toList := by
    rw [dump, Json.text, String.toList_ofList]
    exact hbody.exact.spells hdepth
  rw [sorted_toJson] at hspells
  have hcanonical :
      ∃ w, Canonical w ∧ w.Exact ∧ dump body = w.text ∧ Spells .compact room w (dump body).toList := by
    refine ⟨_, canonical_dump hbody, ?_, (dump_sorted body).symm, hspells⟩
    rw [← sorted_toJson]
    exact hbody.exact.sorted
  have hagain : dumpWithin room (mapAll Json.sorted body) = .ok (dump (mapAll Json.sorted body)) :=
    if_pos hspells.depth_le
  rw [dump_sorted] at hagain
  refine ⟨⟨if_pos hdepth, load_dump hbody hdepth hcalls, hagain⟩, hcanonical, ?_, ?_⟩
  · intro htext
    obtain ⟨w, hw, hexact, hdump, -⟩ := hcanonical
    exact ⟨w, hw, hexact, htext.symm.trans hdump⟩
  · rintro ⟨w, hw, hexact, rfl⟩
    exact dump_of_load_canonical hw hexact hload

/-- The fields of a loop whose key is absent, with another key that is not known. Its fields are no texts, and in
it is a choice without arms that has no last body. -/
def looseFields : List (String × Json) :=
  [("body", .arr [.obj [("branches", .str ""), ("type", .str "if")]]), ("iterable", .arr [.int 1, .int 2]),
    ("more", .null), ("type", .str "foreach"), ("value", .obj [("a", .int 2), ("b", .null)])]

def looseNodes : Json := .arr [.obj looseFields]

/-- An artifact that is not canonical: it has white space, and its keys are not in order. -/
def loose : String := "\x7b\"version\":1, \"nodes\":" ++ looseNodes.text ++ "\x7d"

def looseValue : Json := .obj [("version", .int 1), ("nodes", looseNodes)]

def looseTree : List (Instruction Json) :=
  [.loop (.arr [.int 1, .int 2]) none (.obj [("a", .int 2), ("b", .null)]) [.choose [] none]]

theorem exact_looseNodes : looseNodes.Exact := by
  simp [looseNodes, looseFields, Number.digits, Number.digitsBefore, Number.digitLimit]

theorem ordered_looseValue : Ordered (.obj [("a", .int 2), ("b", .null)]) :=
  ordered_obj_iff.2 ⟨by decide, by simp⟩

theorem sorted_looseNodes : looseNodes.sorted = looseNodes := by
  have hchoice : Ordered (.obj [("branches", .str ""), ("type", .str "if")]) :=
    ordered_obj_iff.2 ⟨by decide, by simp⟩
  have hloop : Ordered (.obj looseFields) := by
    refine ordered_obj_iff.2 ⟨by decide, ?_⟩
    simp only [looseFields, List.forall_mem_cons]
    exact ⟨.arr (List.forall_mem_singleton.2 hchoice), by simp, .null, .str _, ordered_looseValue,
      List.forall_mem_nil _⟩
  exact Ordered.sorted_eq (ordered_arr_iff.2 (List.forall_mem_singleton.2 hloop))

theorem read_loose : Json.readWithin callRoom loose.toList = .ok looseValue := by
  have hplain (s : List Char) (h : (s.all fun c => c != '"' && c != '\\' && decide (32 ≤ c.toNat)) = true) :
      Quoted s s := by
    induction s with
    | nil => exact .nil
    | cons c s ih =>
      rw [List.all_cons, Bool.and_eq_true] at h
      obtain ⟨hc, hs⟩ := h
      simp only [Bool.and_eq_true, bne_iff_ne, decide_eq_true_eq] at hc
      exact .plain hc.1.1 hc.1.2 hc.2 (ih hs)
  have hone : Spells .short 9 (.int 1) ['1'] :=
    @Spells.int .short 9 false ['1'] (.digits (by simp [Digits, Number.isAsciiDigit]) (by decide))
      (by simp [Form.short, Number.digitLimit])
  have hnodes : Spells .short 9 looseNodes looseNodes.write := by
    have hdepth : looseNodes.depth ≤ 9 := by simp [looseNodes, looseFields, depth, depthItems, depthFields]
    have h := (exact_looseNodes.spells hdepth).mono compact_within_short
    rwa [sorted_looseNodes] at h
  have hspells := @Spells.obj .short 9
    [⟨"version", [], "version".toList, [], ⟨.int 1, [], ['1'], []⟩⟩,
      ⟨"nodes", [' '], "nodes".toList, [], ⟨looseNodes, [], looseNodes.write, []⟩⟩] (by simp)
    (List.forall_mem_cons.2 ⟨⟨gap_nil, hplain _ (by decide), gap_nil⟩, List.forall_mem_singleton.2
      ⟨by simp [Form.short, Gap, isGap], hplain _ (by decide), gap_nil⟩⟩)
    (List.forall_mem_cons.2 ⟨⟨gap_nil, gap_nil⟩, List.forall_mem_singleton.2 ⟨gap_nil, gap_nil⟩⟩)
    (List.forall_mem_cons.2 ⟨hone, List.forall_mem_singleton.2 hnodes⟩)
  have htext (t : List Char) : ("\x7b\"version\":1, \"nodes\":" ++ String.ofList t ++ "\x7d").toList =
      '\x7b' :: (withCommas ([⟨"version", [], "version".toList, [], ⟨.int 1, [], ['1'], []⟩⟩,
        ⟨"nodes", [' '], "nodes".toList, [], ⟨looseNodes, [], t, []⟩⟩].map Member.spelled) ++ ['\x7d']) := by
    simp [withCommas, Member.spelled, Slot.spelled]
  have hread := (hspells.document gap_nil).read (show 9 + 1 ≤ callRoom by decide)
  rw [← htext] at hread
  exact hread

theorem load_loose : load loose = .ok looseTree := by
  have harms (n : Nat) : armsOfJson (n + 1) (.str "") = .ok [] := by
    rw [armsOfJson_eq_readList]
    rfl
  have hchoice (n : Nat) : Instruction.ofJson (n + 2) (.obj [("branches", .str ""), ("type", .str "if")]) =
      .ok (.choose [] none) :=
    (Rebuilds.choose rfl rfl (harms n) (by simp [field?])).ofJson
  have hbody (n : Nat) : bodyOfJson (n + 4) (.arr [.obj [("branches", .str ""), ("type", .str "if")]]) =
      .ok [.choose [] none] := by
    rw [bodyOfJson_eq_readList]
    show [_].mapM (Instruction.ofJson (n + 2)) = _
    rw [List.mapM_cons, hchoice]
    rfl
  have hnodes (n : Nat) : bodyOfJson (n + 7) looseNodes = .ok looseTree := by
    have hloop : Rebuilds (n + 4) looseFields
        (.loop (.arr [.int 1, .int 2]) none (.obj [("a", .int 2), ("b", .null)]) [.choose [] none]) :=
      .loop rfl rfl (by simp [looseFields, field?]) rfl rfl (hbody n)
    rw [bodyOfJson_eq_readList]
    show [_].mapM (Instruction.ofJson (n + 5)) = _
    rw [List.mapM_cons, hloop.ofJson]
    rfl
  have hvalue (n : Nat) : ofJson (n + 7) looseValue = .ok looseTree := by
    have hfield : field? "nodes" [("version", Json.int 1), ("nodes", looseNodes)] = some looseNodes := rfl
    obtain ⟨_, hr⟩ := require_of_field? hfield
    simp only [looseValue, ofJson, field?, isVersion, formatVersion, hr, bind, Except.bind]
    exact hnodes n
  rw [load, loadWithin, read_loose]
  exact hvalue 973

theorem dump_normalises_sample :
    Json.readWithin callRoom loose.toList = .ok looseValue ∧ looseValue.Integral ∧ load loose = .ok looseTree ∧
      dumpWithin callRoom looseTree = .ok (dump looseTree) ∧ load (dump looseTree) = .ok looseTree := by
  have hintegral : looseValue.Integral :=
    .obj (List.forall_mem_cons.2 ⟨.int 1, List.forall_mem_singleton.2 exact_looseNodes.integral⟩)
  have hsorted : mapAll Json.sorted looseTree = looseTree := by
    have hiterable : (Json.arr [.int 1, .int 2]).sorted = _ := Ordered.sorted_eq (by simp)
    have hvalue := ordered_looseValue.sorted_eq
    simp [looseTree, mapAll, map, mapArms, hiterable, hvalue]
  obtain ⟨⟨hdump, hagain, -⟩, -⟩ := dump_normalises read_loose hintegral load_loose
  rw [hsorted] at hagain
  exact ⟨read_loose, hintegral, load_loose, hdump, hagain⟩

end Stencil.Template
