import Stencil.Proofs.Run
import Stencil.Proofs.Template.Artifact
/-!
# The shape of instructions

Which values stand for instructions, said without the function that rebuilds them, and that it rebuilds just
these. Every list may be left empty in three ways, and keys that are not known are ignored.
-/

namespace Stencil.Json

/-- A list of values of one sort, which takes some calls of its own. An empty text and an empty object do for an
empty list. -/
inductive IsList (own : Nat) (p : Nat → Json → Prop) : Nat → Json → Prop where
  | items {n : Nat} {items : List Json} (h : ∀ v ∈ items, p n v) : IsList own p (n + own) (.arr items)
  | emptyText {n : Nat} : IsList own p (n + own) (.str "")
  | emptyObject {n : Nat} : IsList own p (n + own) (.obj [])

theorem IsList.congr {own n : Nat} {p q : Nat → Json → Prop} {v : Json}
    (h : ∀ w, sizeOf w < sizeOf v → ∀ m, p m w ↔ q m w) : IsList own p n v ↔ IsList own q n v := by
  have change {p q : Nat → Json → Prop} (h : ∀ w, sizeOf w < sizeOf v → ∀ m, p m w ↔ q m w)
      (hv : IsList own p n v) : IsList own q n v := by
    cases hv with
    | @items m items hitems =>
      refine .items fun w hw => (h w ?_ m).1 (hitems w hw)
      have := List.sizeOf_lt_of_mem hw
      simp only [arr.sizeOf_spec]
      omega
    | emptyText => exact .emptyText
    | emptyObject => exact .emptyObject
  exact ⟨change h, change fun w hw m => (h w hw m).symm⟩

mutual

/-- The values that stand for an instruction that so many calls within each other rebuild. An instruction takes
one, a list of instructions two and a list of arms one. Keys that an instruction does not have are ignored. -/
inductive IsNode : Nat → Json → Prop where
  | literal {n : Nat} {fields : List (String × Json)} {text : Json}
      (ht : field? "type" fields = some (.str "literal")) (htext : field? "text" fields = some text) :
      IsNode (n + 1) (.obj fields)
  | echo {n : Nat} {fields : List (String × Json)} {expr : Json}
      (ht : field? "type" fields = some (.str "echo")) (hexpr : field? "expr" fields = some expr) :
      IsNode (n + 1) (.obj fields)
  | choose {n : Nat} {fields : List (String × Json)} {branches : Json}
      (ht : field? "type" fields = some (.str "if")) (hbranches : field? "branches" fields = some branches)
      (harms : IsList 1 IsArm n branches)
      (helse : ∀ v, field? "else" fields = some v → v ≠ .null → IsList 2 IsNode n v) :
      IsNode (n + 1) (.obj fields)
  | loop {n : Nat} {fields : List (String × Json)} {iterable value body : Json}
      (ht : field? "type" fields = some (.str "foreach"))
      (hiterable : field? "iterable" fields = some iterable) (hvalue : field? "value" fields = some value)
      (hbody : field? "body" fields = some body) (hnodes : IsList 2 IsNode n body) : IsNode (n + 1) (.obj fields)

inductive IsArm : Nat → Json → Prop where
  | mk {n : Nat} {fields : List (String × Json)} {cond body : Json} (hcond : field? "cond" fields = some cond)
      (hbody : field? "body" fields = some body) (hnodes : IsList 2 IsNode n body) : IsArm n (.obj fields)

end

/-- A value stands at the place of an instruction in a list, at any depth. -/
inductive Nested : Json → Json → Prop where
  | item {items : List Json} {v : Json} (h : v ∈ items) : Nested (.arr items) v
  | branch {items arms : List Json} {fields arm : List (String × Json)} {body v : Json}
      (h : .obj fields ∈ items) (ht : field? "type" fields = some (.str "if"))
      (hbranches : field? "branches" fields = some (.arr arms)) (harm : .obj arm ∈ arms)
      (hbody : field? "body" arm = some body) (hv : Nested body v) : Nested (.arr items) v
  | otherwise {items : List Json} {fields : List (String × Json)} {body v : Json} (h : .obj fields ∈ items)
      (ht : field? "type" fields = some (.str "if")) (helse : field? "else" fields = some body)
      (hv : Nested body v) : Nested (.arr items) v
  | turn {items : List Json} {fields : List (String × Json)} {body v : Json} (h : .obj fields ∈ items)
      (ht : field? "type" fields = some (.str "foreach")) (hbody : field? "body" fields = some body)
      (hv : Nested body v) : Nested (.arr items) v

def kinds : List String := ["literal", "echo", "if", "foreach"]

theorem IsNode.kind {n : Nat} {v : Json} (h : IsNode n v) :
    ∃ fields, ∃ kind ∈ kinds, v = .obj fields ∧ field? "type" fields = some (.str kind) := by
  cases h with
  | literal ht | echo ht | choose ht | loop ht => exact ⟨_, _, by simp [kinds], rfl, ht⟩

theorem IsList.of_mem {own n : Nat} {p : Nat → Json → Prop} {items : List Json} {v : Json}
    (h : IsList own p n (.arr items)) (hv : v ∈ items) : ∃ m, p m v := by
  cases h with
  | items h => exact ⟨_, h v hv⟩

theorem IsNode.body_of_loop {n : Nat} {fields : List (String × Json)} {body : Json} (h : IsNode n (.obj fields))
    (ht : field? "type" fields = some (.str "foreach")) (hbody : field? "body" fields = some body) :
    ∃ m, IsList 2 IsNode m body := by
  cases h with
  | literal ht' | echo ht' | choose ht' => simp [ht] at ht'
  | loop _ _ _ hbody' hnodes => exact ⟨_, Option.some.inj (hbody'.symm.trans hbody) ▸ hnodes⟩

theorem IsNode.arms_of_choice {n : Nat} {fields : List (String × Json)} {branches : Json}
    (h : IsNode n (.obj fields)) (ht : field? "type" fields = some (.str "if"))
    (hb : field? "branches" fields = some branches) : ∃ m, IsList 1 IsArm m branches := by
  cases h with
  | literal ht' | echo ht' | loop ht' => simp [ht] at ht'
  | choose _ hb' harms => exact ⟨_, Option.some.inj (hb'.symm.trans hb) ▸ harms⟩

theorem IsNode.else_of_choice {n : Nat} {fields : List (String × Json)} {body : Json} (h : IsNode n (.obj fields))
    (ht : field? "type" fields = some (.str "if")) (he : field? "else" fields = some body)
    (hne : body ≠ .null) : ∃ m, IsList 2 IsNode m body := by
  cases h with
  | literal ht' | echo ht' | loop ht' => simp [ht] at ht'
  | choose _ _ _ helse => exact ⟨_, helse _ he hne⟩

theorem IsArm.nodes {n : Nat} {arm : List (String × Json)} {body : Json} (h : IsArm n (.obj arm))
    (hbody : field? "body" arm = some body) : IsList 2 IsNode n body := by
  cases h with
  | mk _ hbody' hnodes => exact Option.some.inj (hbody'.symm.trans hbody) ▸ hnodes

theorem Nested.isNode {nodes v : Json} (h : Nested nodes v) {n : Nat} (hnodes : IsList 2 IsNode n nodes) :
    ∃ m, IsNode m v := by
  induction h generalizing n with
  | item h => exact hnodes.of_mem h
  | branch h ht hbranches harm hbody _ ih =>
    obtain ⟨_, hnode⟩ := hnodes.of_mem h
    obtain ⟨_, harms⟩ := hnode.arms_of_choice ht hbranches
    obtain ⟨_, harm⟩ := harms.of_mem harm
    exact ih (harm.nodes hbody)
  | otherwise h ht helse hv ih =>
    obtain ⟨_, hnode⟩ := hnodes.of_mem h
    obtain ⟨_, helse⟩ := hnode.else_of_choice ht helse (by rintro rfl; cases hv)
    exact ih helse
  | turn h ht hbody _ ih =>
    obtain ⟨_, hnode⟩ := hnodes.of_mem h
    obtain ⟨_, hbody⟩ := hnode.body_of_loop ht hbody
    exact ih hbody

end Stencil.Json

namespace Stencil.Instruction

open Json

variable {α : Type} {f : Json → Except Fault α}

theorem mapM_ok_iff {items : List Json} :
    (∃ xs, items.mapM f = .ok xs) ↔ ∀ v ∈ items, ∃ x, f v = .ok x := by
  induction items with
  | nil => exact ⟨fun _ => List.forall_mem_nil _, fun _ => ⟨[], rfl⟩⟩
  | cons v rest ih =>
    rw [List.mapM_cons, List.forall_mem_cons, ← ih]
    constructor
    · rintro ⟨xs, h⟩
      obtain ⟨x, hx, h⟩ := exists_of_bind_ok h
      obtain ⟨more, hmore, -⟩ := exists_of_bind_ok h
      exact ⟨⟨x, hx⟩, more, hmore⟩
    · rintro ⟨⟨x, hx⟩, more, hmore⟩
      exact ⟨x :: more, by rw [hx, hmore]; rfl⟩

theorem mapM_ok_mono {g : Json → Except Fault α} {items : List Json} {xs : List α} (h : items.mapM f = .ok xs)
    (hfg : ∀ v ∈ items, ∀ x, f v = .ok x → g v = .ok x) : items.mapM g = .ok xs := by
  induction items generalizing xs with
  | nil => exact h
  | cons v rest ih =>
    rw [List.mapM_cons] at h ⊢
    obtain ⟨x, hx, h⟩ := exists_of_bind_ok h
    obtain ⟨more, hmore, h⟩ := exists_of_bind_ok h
    rw [hfg v List.mem_cons_self x hx, ih hmore fun w hw => hfg w (List.mem_cons_of_mem v hw)]
    exact h

theorem exists_of_mem_mapM {items : List Json} {xs : List α} (h : items.mapM f = .ok xs) {x : α}
    (hx : x ∈ xs) : ∃ v ∈ items, f v = .ok x := by
  induction items generalizing xs with
  | nil =>
    obtain rfl := Except.ok.inj h
    cases hx
  | cons v rest ih =>
    rw [List.mapM_cons] at h
    obtain ⟨first, hfirst, h⟩ := exists_of_bind_ok h
    obtain ⟨more, hmore, h⟩ := exists_of_bind_ok h
    obtain rfl := Except.ok.inj h
    rcases List.mem_cons.1 hx with rfl | hx
    · exact ⟨v, List.mem_cons_self, hfirst⟩
    · obtain ⟨w, hw, hwx⟩ := ih hmore hx
      exact ⟨w, List.mem_cons_of_mem v hw, hwx⟩

/-- A list that is read item by item after some calls of its own. Texts and objects that are not empty are
refused with a fault of the place where the list stands. -/
def readList (own : Nat) (bare : Fault) (f : Nat → Json → Except Fault α) (room : Nat) (v : Json) :
    Except Fault (List α) :=
  if room < own then .error .tooDeep
  else match v with
    | .arr items => items.mapM (f (room - own))
    | .str s => if s.isEmpty then .ok [] else .error bare
    | .obj fields => if fields.isEmpty then .ok [] else .error bare
    | _ => .error .wrongType

variable {own room : Nat} {bare : Fault} {g : Nat → Json → Except Fault α} {v : Json}

theorem readList_ok_iff :
    (∃ xs, readList own bare g room v = .ok xs) ↔ IsList own (fun n w => ∃ x, g n w = .ok x) room v := by
  constructor
  · rintro ⟨xs, h⟩
    unfold readList at h
    split at h
    · cases h
    next hroom =>
    obtain ⟨inner, rfl⟩ := Nat.exists_eq_add_of_le' (Nat.le_of_not_lt hroom)
    split at h
    · refine .items (mapM_ok_iff.1 ⟨xs, ?_⟩)
      rwa [Nat.add_sub_cancel] at h
    · split at h
      · next he => exact String.isEmpty_iff.1 he ▸ .emptyText
      · cases h
    · split at h
      · next he => exact List.isEmpty_iff.1 he ▸ .emptyObject
      · cases h
    · cases h
  · intro h
    unfold readList
    cases h with
    | items hitems =>
      rw [if_neg (by omega), Nat.add_sub_cancel]
      exact mapM_ok_iff.2 hitems
    | emptyText | emptyObject => exact ⟨[], if_neg (by omega)⟩

theorem items_of_readList {xs : List α} (h : readList own bare g room v = .ok xs) :
    ∃ inner, room = inner + own ∧ ∀ x ∈ xs, ∃ items, v = .arr items ∧ ∃ w ∈ items, g inner w = .ok x := by
  unfold readList at h
  split at h
  · cases h
  next hroom =>
  obtain ⟨inner, rfl⟩ := Nat.exists_eq_add_of_le' (Nat.le_of_not_lt hroom)
  rw [Nat.add_sub_cancel] at h
  refine ⟨inner, rfl, fun x hx => ?_⟩
  split at h
  · exact ⟨_, rfl, exists_of_mem_mapM h hx⟩
  · split at h
    · obtain rfl := Except.ok.inj h
      cases hx
    · cases h
  · split at h
    · obtain rfl := Except.ok.inj h
      cases hx
    · cases h
  · cases h

theorem readList_mono {xs : List α} {k : Nat} (h : readList own bare g room v = .ok xs)
    (hg : ∀ w, sizeOf w < sizeOf v → ∀ n x, g n w = .ok x → g (n + k) w = .ok x) :
    readList own bare g (room + k) v = .ok xs := by
  unfold readList at h ⊢
  by_cases hroom : room < own
  · rw [if_pos hroom] at h
    cases h
  · rw [if_neg hroom] at h
    rw [if_neg (by omega), show room + k - own = room - own + k by omega]
    cases v with
    | arr items =>
      refine mapM_ok_mono h fun w hw x => hg w ?_ _ x
      have := List.sizeOf_lt_of_mem hw
      simp only [arr.sizeOf_spec]
      omega
    | null | bool | int | float | str | obj => exact h

theorem bodyOfItems_eq_mapM (room : Nat) (items : List Json) : bodyOfItems room items = items.mapM (ofJson room) := by
  induction items with
  | nil => rw [bodyOfItems]; rfl
  | cons v rest ih => rw [bodyOfItems, List.mapM_cons, ih]; rfl

theorem armsOfItems_eq_mapM (room : Nat) (items : List Json) :
    armsOfItems room items = items.mapM (armOfJson room) := by
  induction items with
  | nil => rw [armsOfItems]; rfl
  | cons v rest ih => rw [armsOfItems, List.mapM_cons, ih]; rfl

theorem bodyOfJson_eq_readList (room : Nat) (v : Json) :
    bodyOfJson room v = readList 2 .noAttribute ofJson room v := by
  rcases room with _ | _ | inner
  · rw [bodyOfJson]; rfl
  · rw [bodyOfJson]; rfl
  · unfold readList
    rw [if_neg (by omega), bodyOfJson]
    cases v with
    | arr items => exact bodyOfItems_eq_mapM inner items
    | null | bool | int | float | str | obj => rfl

theorem armsOfJson_eq_readList (room : Nat) (v : Json) :
    armsOfJson room v = readList 1 .wrongType armOfJson room v := by
  rcases room with _ | inner
  · rw [armsOfJson]; rfl
  · unfold readList
    rw [if_neg (by omega), armsOfJson]
    cases v with
    | arr items => exact armsOfItems_eq_mapM inner items
    | null | bool | int | float | str | obj => rfl

theorem bodyOfJson_ok_iff :
    (∃ body, bodyOfJson room v = .ok body) ↔ IsList 2 (fun n w => ∃ i, ofJson n w = .ok i) room v := by
  rw [bodyOfJson_eq_readList]
  exact readList_ok_iff

theorem armsOfJson_ok_iff :
    (∃ arms, armsOfJson room v = .ok arms) ↔ IsList 1 (fun n w => ∃ arm, armOfJson n w = .ok arm) room v := by
  rw [armsOfJson_eq_readList]
  exact readList_ok_iff

/-- What is read as an instruction and as an arm is said rightly of a value. -/
structure Settled (v : Json) : Prop where
  node : ∀ room, (∃ i, ofJson room v = .ok i) ↔ IsNode room v
  arm : ∀ room, (∃ arm, armOfJson room v = .ok arm) ↔ IsArm room v

variable {fields : List (String × Json)} (ih : ∀ w : Json, sizeOf w < sizeOf (Json.obj fields) → Settled w)

include ih

theorem body_ok_iff {key : String} {body : Json} (h : field? key fields = some body) :
    (∃ is, bodyOfJson room body = .ok is) ↔ IsList 2 IsNode room body := by
  have hsize := sizeOf_field? h
  refine bodyOfJson_ok_iff.trans (IsList.congr fun w hw => (ih w ?_).node)
  simp only [obj.sizeOf_spec]
  omega

theorem arms_ok_iff {key : String} {branches : Json} (h : field? key fields = some branches) :
    (∃ arms, armsOfJson room branches = .ok arms) ↔ IsList 1 IsArm room branches := by
  have hsize := sizeOf_field? h
  refine armsOfJson_ok_iff.trans (IsList.congr fun w hw => (ih w ?_).arm)
  simp only [obj.sizeOf_spec]
  omega

theorem isNode_of_rebuilds {i : Instruction Json} (h : Rebuilds room fields i) : IsNode (room + 1) (.obj fields) := by
  cases h with
  | literal ht htext => exact .literal ht htext
  | echo ht hexpr => exact .echo ht hexpr
  | choose ht hbranches harms helse =>
    exact .choose ht hbranches ((arms_ok_iff ih hbranches).1 ⟨_, harms⟩) fun v hv hne => absurd (helse v hv) hne
  | chooseElse ht hbranches harms helse hne hbody =>
    refine .choose ht hbranches ((arms_ok_iff ih hbranches).1 ⟨_, harms⟩) fun v hv _ => ?_
    obtain rfl := Option.some.inj (helse.symm.trans hv)
    exact (body_ok_iff ih helse).1 ⟨_, hbody⟩
  | loop ht hiterable _ hvalue hinner hbody =>
    exact .loop ht hiterable hvalue hinner ((body_ok_iff ih hinner).1 ⟨_, hbody⟩)

theorem rebuilds_of_isNode (h : IsNode (room + 1) (.obj fields)) : ∃ i, Rebuilds room fields i := by
  cases h with
  | literal ht htext => exact ⟨_, .literal ht htext⟩
  | echo ht hexpr => exact ⟨_, .echo ht hexpr⟩
  | choose ht hbranches harms helse =>
    obtain ⟨arms, ha⟩ := (arms_ok_iff ih hbranches).2 harms
    by_cases hnone : ∀ v, field? "else" fields = some v → v = .null
    · exact ⟨_, .choose ht hbranches ha hnone⟩
    · simp only [Classical.not_forall] at hnone
      obtain ⟨other, he, hne⟩ := hnone
      obtain ⟨is, his⟩ := (body_ok_iff ih he).2 (helse _ he hne)
      exact ⟨_, .chooseElse ht hbranches ha he hne his⟩
  | loop ht hiterable hvalue hbody hnodes =>
    obtain ⟨is, his⟩ := (body_ok_iff ih hbody).2 hnodes
    exact ⟨_, .loop ht hiterable (present?_map_val_eq_iff.1 rfl) hvalue hbody his⟩

theorem isArm_iff : (∃ arm, armOfJson room (.obj fields) = .ok arm) ↔ IsArm room (.obj fields) := by
  constructor
  · rintro ⟨⟨cond, body⟩, h⟩
    obtain ⟨_, inner, heq, hcond, hinner, hbody⟩ := armOfJson_eq_ok_iff.1 h
    obtain rfl := Json.obj.inj heq
    exact .mk hcond hinner ((body_ok_iff ih hinner).1 ⟨_, hbody⟩)
  · rintro ⟨hcond, hbody, hnodes⟩
    obtain ⟨is, his⟩ := (body_ok_iff ih hbody).2 hnodes
    exact ⟨_, armOfJson_eq_ok_iff.2 ⟨_, _, rfl, hcond, hbody, his⟩⟩

omit ih

theorem settled (v : Json) : Settled v := by
  by_cases h : ∃ fields, v = .obj fields
  · obtain ⟨fields, rfl⟩ := h
    -- on the size of the value: an arm stands two levels down, so the constructors do not give the induction
    have ih : ∀ w : Json, sizeOf w < sizeOf (Json.obj fields) → Settled w := fun w _ => settled w
    refine ⟨fun room => ⟨?_, fun hnode => ?_⟩, fun room => isArm_iff ih⟩
    · rintro ⟨i, hi⟩
      obtain ⟨inner, _, rfl, heq, hrebuilds⟩ := ofJson_eq_ok_iff.1 hi
      obtain rfl := Json.obj.inj heq
      exact isNode_of_rebuilds ih hrebuilds
    · obtain ⟨inner, rfl⟩ : ∃ inner, room = inner + 1 := by cases hnode <;> exact ⟨_, rfl⟩
      obtain ⟨i, hi⟩ := rebuilds_of_isNode ih hnode
      exact ⟨i, hi.ofJson⟩
  · refine ⟨fun room => ⟨?_, fun hnode => ?_⟩, fun room => ⟨?_, fun harm => ?_⟩⟩
    · rintro ⟨i, hi⟩
      obtain ⟨_, fields, -, rfl, -⟩ := ofJson_eq_ok_iff.1 hi
      exact absurd ⟨fields, rfl⟩ h
    · cases hnode <;> exact absurd ⟨_, rfl⟩ h
    · rintro ⟨⟨cond, body⟩, ha⟩
      obtain ⟨fields, _, rfl, -⟩ := armOfJson_eq_ok_iff.1 ha
      exact absurd ⟨fields, rfl⟩ h
    · cases harm
      exact absurd ⟨_, rfl⟩ h
termination_by sizeOf v

theorem nodes_ok_iff : (∃ body, bodyOfJson room v = .ok body) ↔ IsList 2 IsNode room v :=
  bodyOfJson_ok_iff.trans (IsList.congr fun w _ => (settled w).node)

/-- What is rebuilt from a value is rebuilt in the same way when there is more room. -/
structure Stable (k : Nat) (v : Json) : Prop where
  node : ∀ room i, ofJson room v = .ok i → ofJson (room + k) v = .ok i
  arm : ∀ room arm, armOfJson room v = .ok arm → armOfJson (room + k) v = .ok arm

variable {k : Nat} (hs : ∀ w : Json, sizeOf w < sizeOf (Json.obj fields) → Stable k w)

include hs

theorem bodyOfJson_mono {key : String} {body : Json} {is : List (Instruction Json)}
    (hf : field? key fields = some body) (h : bodyOfJson room body = .ok is) :
    bodyOfJson (room + k) body = .ok is := by
  have hsize := sizeOf_field? hf
  rw [bodyOfJson_eq_readList] at h ⊢
  refine readList_mono h fun w hw => (hs w ?_).node
  simp only [obj.sizeOf_spec]
  omega

theorem armsOfJson_mono {key : String} {branches : Json} {arms : List (Arm Json)}
    (hf : field? key fields = some branches) (h : armsOfJson room branches = .ok arms) :
    armsOfJson (room + k) branches = .ok arms := by
  have hsize := sizeOf_field? hf
  rw [armsOfJson_eq_readList] at h ⊢
  refine readList_mono h fun w hw => (hs w ?_).arm
  simp only [obj.sizeOf_spec]
  omega

theorem Rebuilds.mono {i : Instruction Json} (h : Rebuilds room fields i) : Rebuilds (room + k) fields i := by
  cases h with
  | literal ht htext => exact .literal ht htext
  | echo ht hexpr => exact .echo ht hexpr
  | choose ht hbranches harms helse => exact .choose ht hbranches (armsOfJson_mono hs hbranches harms) helse
  | chooseElse ht hbranches harms helse hne hbody =>
    exact .chooseElse ht hbranches (armsOfJson_mono hs hbranches harms) helse hne
      (bodyOfJson_mono hs helse hbody)
  | loop ht hiterable hkey hvalue hinner hbody =>
    exact .loop ht hiterable hkey hvalue hinner (bodyOfJson_mono hs hinner hbody)

omit hs

theorem stable (k : Nat) (v : Json) : Stable k v := by
  refine ⟨fun room i hi => ?_, fun room ⟨cond, body⟩ ha => ?_⟩
  · obtain ⟨inner, fields, rfl, rfl, h⟩ := ofJson_eq_ok_iff.1 hi
    exact ofJson_eq_ok_iff.2 ⟨inner + k, fields, by omega, rfl, h.mono fun w _ => stable k w⟩
  · obtain ⟨fields, inner, rfl, hcond, hinner, hbody⟩ := armOfJson_eq_ok_iff.1 ha
    exact armOfJson_eq_ok_iff.2
      ⟨fields, inner, rfl, hcond, hinner, bodyOfJson_mono (fun w _ => stable k w) hinner hbody⟩
termination_by sizeOf v

end Stencil.Instruction

namespace Stencil.Template

open Instruction Json

theorem ofJson_mono {room k : Nat} {v : Json} {body : List (Instruction Json)} (h : ofJson room v = .ok body) :
    ofJson (room + k) v = .ok body := by
  unfold ofJson at h ⊢
  split at h
  · split at h
    · cases h
    · split at h
      · next hone =>
        obtain ⟨nodes, hnodes, h⟩ := exists_of_bind_ok h
        rw [if_pos hone, hnodes]
        exact bodyOfJson_mono (fun w _ => stable k w) (field?_of_require hnodes) h
      · cases h
  · cases h

end Stencil.Template
