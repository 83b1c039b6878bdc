import Stencil.Proofs.Json.Ordered
import Stencil.Proofs.Template.Shape
/-!
# Which artifacts are read

A text is read as a compiled template just when it writes an artifact: an object with the version of the
format and with well-formed instructions at every depth.
-/

namespace Stencil.Json

/-- The values that equal the version of the format. -/
inductive EqualsOne : Json → Prop where
  | truth : EqualsOne (.bool true)
  | int : EqualsOne (.int 1)
  | float {x : Float} (h : (x == 1) = true) : EqualsOne (.float x)

/-- The values that stand for a compiled template that so many calls within each other rebuild. -/
inductive IsArtifact : Nat → Json → Prop where
  | mk {n : Nat} {fields : List (String × Json)} {version nodes : Json}
      (hversion : field? "version" fields = some version) (hone : EqualsOne version)
      (hnodes : field? "nodes" fields = some nodes) (h : IsList 2 IsNode n nodes) : IsArtifact n (.obj fields)

theorem Document.unique {n m : Nat} {v w : Json} {cs : List Char} (hv : Document .short n v cs)
    (hw : Document .short m w cs) : v = w := by
  have hread := hv.read (Nat.le_max_left n m)
  rw [hw.read (Nat.le_max_right n m)] at hread
  exact (Except.ok.inj hread).symm

theorem Document.not_read {n room : Nat} {v : Json} {cs : List Char} (h : Document .short n v cs)
    (hdeep : room < v.depth) : ¬∃ w, readWithin room cs = .ok w := by
  rintro ⟨w, hw⟩
  obtain rfl := h.unique (read_eq_ok_iff.1 hw)
  exact Nat.not_le.2 hdeep (depth_of_read hw)

end Stencil.Json

namespace Stencil.Template

open Instruction Json

theorem isVersion_iff {v : Json} : v.isVersion = true ↔ EqualsOne v := by
  constructor
  · intro h
    cases v with
    | bool b =>
      obtain rfl : b = true := h
      exact .truth
    | int n =>
      obtain rfl : n = 1 := by simpa [isVersion, formatVersion] using h
      exact .int
    | float x => exact .float h
    | null | str | arr | obj => cases h
  · rintro (_ | _ | h)
    · rfl
    · rfl
    · exact h

variable {room : Nat} {v : Json} {text : String}

theorem ofJson_ok_iff : (∃ body, ofJson room v = .ok body) ↔ IsArtifact room v := by
  constructor
  · rintro ⟨body, h⟩
    unfold ofJson at h
    split at h
    · split at h
      · cases h
      · next version hversion =>
        split at h
        · next hone =>
          obtain ⟨nodes, hnodes, h⟩ := exists_of_bind_ok h
          exact .mk hversion (isVersion_iff.1 hone) (field?_of_require hnodes) (nodes_ok_iff.1 ⟨body, h⟩)
        · cases h
    · cases h
  · rintro ⟨hversion, hone, hnodes, h⟩
    obtain ⟨body, hbody⟩ := nodes_ok_iff.2 h
    obtain ⟨_, hr⟩ := require_of_field? hnodes
    refine ⟨body, ?_⟩
    rw [ofJson, hversion]
    simp only [isVersion_iff.2 hone, if_true, hr, bind, Except.bind, hbody]

theorem ofJson_other_version {fields : List (String × Json)}
    (h : ∀ version, field? "version" fields = some version → ¬EqualsOne version) :
    ofJson room (.obj fields) =
      .error (.badValue (.artifactVersion ((field? "version" fields).getD .null).shown)) := by
  rw [ofJson]
  split
  · next hnone =>
    rw [hnone]
    rfl
  · next version hversion =>
    rw [if_neg fun hone => h version hversion (isVersion_iff.1 hone), hversion]
    rfl

theorem ofJson_eq_ok_kinds {fields : List (String × Json)} {nodes w : Json} (h : IsArtifact room (.obj fields))
    (hnodes : field? "nodes" fields = some nodes) (hw : Nested nodes w) :
    ∃ fields', ∃ kind ∈ kinds, w = .obj fields' ∧ field? "type" fields' = some (.str kind) := by
  obtain ⟨-, -, hnodes', h⟩ := h
  obtain rfl := Option.some.inj (hnodes'.symm.trans hnodes)
  obtain ⟨_, hnode⟩ := hw.isNode h
  exact hnode.kind

theorem load_eq (h : Document .short room v text.toList) : loadWithin room text = ofJson room v := by
  rw [loadWithin, h.read (Nat.le_refl room)]
  rfl

/-- Which texts are read when there is room for so many brackets and calls within each other. A text that writes
a value is read as a compiled template just when the value is an artifact. Another version is refused whatever
the nodes are, and what is read has no instruction of an unknown kind at any depth. -/
theorem load_iff_artifact (h : Document .short room v text.toList) :
    ((∃ body, loadWithin room text = .ok body) ↔ IsArtifact room v) ∧
    (∀ fields, v = .obj fields →
      (∀ version, field? "version" fields = some version → ¬EqualsOne version) →
      ∃ fault, loadWithin room text = .error (.badValue fault) ∧
        fault.message =
          "Unsupported artifact version: " ++ ((field? "version" fields).getD .null).shown) ∧
    ∀ body fields nodes w, loadWithin room text = .ok body → v = .obj fields →
      field? "nodes" fields = some nodes → Nested nodes w →
      ∃ fields', ∃ kind ∈ kinds, w = .obj fields' ∧ field? "type" fields' = some (.str kind) := by
  have hok : (∃ body, loadWithin room text = .ok body) ↔ IsArtifact room v := by
    rw [load_eq h]
    exact ofJson_ok_iff
  refine ⟨hok, ?_, ?_⟩
  · rintro fields rfl hversion
    exact ⟨_, (load_eq h).trans (ofJson_other_version hversion), rfl⟩
  · rintro body fields nodes w hload rfl hnodes hw
    exact ofJson_eq_ok_kinds (hok.1 ⟨body, hload⟩) hnodes hw

def sampleArtifact : Json :=
  .obj [("nodes", .arr [.obj [("branches", .arr [.obj [("body", .str ""), ("cond", .str "a")]]),
    ("type", .str "if")]]), ("version", .bool true)]

theorem exact_sampleArtifact : sampleArtifact.Exact := by
  refine .obj (by simp) (List.forall_mem_cons.2 ⟨.arr (List.forall_mem_singleton.2 (.obj (by simp) ?_)), ?_⟩)
  · refine List.forall_mem_cons.2 ⟨.arr (List.forall_mem_singleton.2 (.obj (by simp) ?_)), ?_⟩
    · exact List.forall_mem_cons.2 ⟨.str _, List.forall_mem_singleton.2 (.str _)⟩
    · exact List.forall_mem_singleton.2 (.str _)
  · exact List.forall_mem_singleton.2 (.bool true)

theorem sorted_sampleArtifact : sampleArtifact.sorted = sampleArtifact := by
  have harm : sortFields [("body", Json.str ""), ("cond", .str "a")] = _ :=
    sortFields_of_keys ["body", "cond"] rfl (by decide)
  simp only [sampleArtifact, sorted, sortedFields, sortedItems, harm]
  have hnode (arms : Json) : sortFields [("branches", arms), ("type", .str "if")] = _ :=
    sortFields_of_keys ["branches", "type"] rfl (by decide)
  rw [hnode, sortFields_of_keys ["nodes", "version"] rfl (by decide)]

theorem document_sampleArtifact : Document .short callRoom sampleArtifact sampleArtifact.text.toList := by
  have h := (exact_sampleArtifact.spells (n := callRoom) (by decide)).mono compact_within_short
  rw [sorted_sampleArtifact] at h
  rw [Json.text, String.toList_ofList]
  exact h.document gap_nil

theorem isArtifact_sampleArtifact : IsArtifact callRoom sampleArtifact := by
  refine .mk rfl .truth rfl (.items (List.forall_mem_singleton.2 (.choose rfl rfl ?_ nofun)))
  exact .items (List.forall_mem_singleton.2 (.mk rfl rfl .emptyText))

theorem load_iff_artifact_sample :
    Document .short callRoom sampleArtifact sampleArtifact.text.toList ∧
      ∃ body, load sampleArtifact.text = .ok body :=
  ⟨document_sampleArtifact, (load_iff_artifact document_sampleArtifact).1.2 isArtifact_sampleArtifact⟩

/-- An artifact with a key that is ignored. -/
def withExtra (extra : Json) : Json := .obj [("nodes", .arr []), ("version", .int formatVersion), ("x", extra)]

def withExtraMembers (extra : Json) : List Member :=
  [memberOf ("nodes", .arr []), memberOf ("version", .int formatVersion), memberOf ("x", extra)]

theorem write_withExtra (extra : Json) :
    (withExtra extra).write =
      '\x7b' :: (withCommas ((withExtraMembers extra).map Member.spelled) ++ ['\x7d']) := by
  rw [withExtra, write_obj, sortFields_of_keys ["nodes", "version", "x"] rfl (by decide)]
  simp [withExtraMembers, List.map_cons, List.map_nil]

theorem document_withExtra {f : Form} {n : Nat} {extra : Json} (hgap : f.gap [])
    (hversion : Spells f (n + 1) (.int formatVersion) (write (.int formatVersion)))
    (hextra : Spells f (n + 1) extra (write extra)) (hsorted : extra.sorted = extra) :
    Document f (n + 2) (withExtra extra) (withExtra extra).text.toList := by
  have hspells : Spells f (n + 2) (withExtra extra)
      ('\x7b' :: (withCommas ((withExtraMembers extra).map Member.spelled) ++ ['\x7d'])) := by
    have hobj := @Spells.obj f (n + 1) (withExtraMembers extra) (by simp [withExtraMembers]) ?_ ?_ ?_
    · simpa [withExtraMembers, memberOf, slotOf, Member.field, ofFields, putField, withExtra, sorted, sortedItems,
        hsorted] using hobj
    · simp only [withExtraMembers, List.forall_mem_cons]
      exact ⟨⟨hgap, quoted_escaped _, hgap⟩, ⟨hgap, quoted_escaped _, hgap⟩, ⟨hgap, quoted_escaped _, hgap⟩,
        List.forall_mem_nil _⟩
    · simp only [withExtraMembers, List.forall_mem_cons]
      exact ⟨⟨hgap, hgap⟩, ⟨hgap, hgap⟩, ⟨hgap, hgap⟩, List.forall_mem_nil _⟩
    · simp only [withExtraMembers, List.forall_mem_cons]
      have hextra' : Spells f (n + 1) extra.sorted (write extra) := by rwa [hsorted]
      exact ⟨.noItems hgap, hversion, hextra', List.forall_mem_nil _⟩
  rw [Json.text, String.toList_ofList, write_withExtra]
  exact hspells.document hgap

theorem isArtifact_withExtra (extra : Json) : IsArtifact 2 (withExtra extra) :=
  .mk rfl .int rfl (@IsList.items 2 IsNode 0 [] nofun)

theorem fits_memberOf {depth : Nat} {f : String × Json} (h : f.2.Exact) (hdepth : f.2.depth ≤ depth) :
    (memberOf f).Fits depth := by
  have hspells := (h.spells hdepth).mono compact_within_short
  exact ⟨gap_nil, quoted_escaped _, gap_nil, gap_nil, gap_nil, hspells, hspells.reads⟩

theorem write_withExtra_int (n : Nat) :
    (withExtra (.int n)).write = '\x7b' :: ((memberOf ("nodes", .arr [])).spelled ++ ',' ::
      ((memberOf ("version", .int formatVersion)).spelled ++ ',' ::
        '"' :: ("x".toList.flatMap escapeChar ++ '"' :: ':' :: (minus false ++ (Number.digits n ++ ['\x7d']))))) := by
  have hx : (memberOf ("x", .int n)).spelled =
      '"' :: ("x".toList.flatMap escapeChar ++ '"' :: ':' :: (minus false ++ Number.digits n)) := by
    simp [fieldText, writeField, writeString, write, Number.signed, minus]
  rw [write_withExtra]
  simp only [withExtraMembers, List.map_cons, List.map_nil, withCommas, hx]
  simp

theorem load_withExtra_int {n : Nat} (h : Number.digitLimit < (Number.digits n).length) :
    load (withExtra (.int n)).text = .error (.badValue (.longInteger (Number.digits n).length)) := by
  have hnodes : (memberOf ("nodes", .arr [])).Fits 1 := fits_memberOf (.arr nofun) (by decide)
  have hversion : (memberOf ("version", .int formatVersion)).Fits 1 := fits_memberOf (.int formatVersion_short)
    (by decide)
  have htext := write_withExtra_int n
  have hlen := congrArg List.length htext
  simp only [List.length_cons, List.length_append] at hlen
  -- the object and its first two fields take a step each, and then the long integer comes
  obtain ⟨fuel, hfuel, hf₁, hf₂⟩ : ∃ fuel, 2 * (withExtra (.int n)).write.length + 2 = fuel + 5 ∧
      2 * (memberOf ("nodes", .arr [])).spelled.length ≤ fuel + 3 ∧
      2 * (memberOf ("version", .int formatVersion)).spelled.length ≤ fuel + 2 :=
    ⟨2 * (withExtra (.int n)).write.length - 3, by omega, by omega, by omega⟩
  have hread : Json.readWithin callRoom (withExtra (.int n)).write =
      .error (.badValue (.longInteger (Number.digits n).length)) := by
    have hnest (f : Nat → Except Fault (Json × List Char)) : (nest callRoom >>= f) = f 979 := rfl
    rw [Json.readWithin, hfuel, htext, dropGap_cons (by decide), readValue, hnest]
    split
    · next heq =>
      rw [hnodes.dropGap] at heq
      exact absurd (List.cons.inj heq).1 (by decide)
    · rw [readFields_next hnodes (by decide) [] hf₁, readFields_next hversion (by decide) _ hf₂,
        dropGap_cons (by decide), readFields_long (quoted_escaped _) (whole_digits n) h (by simp [Closed])]
      rfl
  rw [load, loadWithin, Json.text, String.toList_ofList, hread]
  rfl

def brackets : Nat → Json
  | 0 => .arr []
  | n + 1 => .arr [brackets n]

theorem exact_brackets (n : Nat) : (brackets n).Exact := by
  induction n with
  | zero => exact .arr nofun
  | succ n ih => exact .arr (List.forall_mem_singleton.2 ih)

@[simp] theorem sorted_brackets (n : Nat) : (brackets n).sorted = brackets n := by
  induction n with
  | zero => rfl
  | succ n ih => rw [brackets, sorted, sortedItems, ih, sortedItems]

@[simp] theorem depth_brackets (n : Nat) : (brackets n).depth = n + 1 := by
  induction n with
  | zero => rfl
  | succ n ih => simp [brackets, depth, depthItems, ih]

theorem document_withExtra_brackets (n : Nat) :
    Document .short (n + 2) (withExtra (brackets n)) (withExtra (brackets n)).text.toList := by
  have hspells := ((exact_brackets n).spells (Nat.le_of_eq (depth_brackets n))).mono compact_within_short
  rw [sorted_brackets] at hspells
  exact document_withExtra gap_nil (spells_signed formatVersion_short) hspells (sorted_brackets n)

theorem load_withExtra_brackets {n : Nat} (h : callRoom ≤ n) :
    ¬∃ body, load (withExtra (brackets n)).text = .ok body := by
  rintro ⟨body, hbody⟩
  obtain ⟨w, hread, -⟩ := exists_of_bind_ok hbody
  refine (document_withExtra_brackets n).not_read ?_ ⟨w, hread⟩
  simp [withExtra, depth, depthFields]
  omega

/-- Not all valid texts of artifacts are read. An integer may have too many digits, and brackets may be nested too
deep, also under a key that is ignored. -/
theorem valid_artifacts_refused :
    (Document .valid 2 (withExtra (.int (Nat.pow 10 Number.digitLimit)))
        (withExtra (.int (Nat.pow 10 Number.digitLimit))).text.toList ∧
      IsArtifact 2 (withExtra (.int (Nat.pow 10 Number.digitLimit))) ∧
      ¬∃ body, load (withExtra (.int (Nat.pow 10 Number.digitLimit))).text = .ok body) ∧
    Document .short 100002 (withExtra (brackets 100000)) (withExtra (brackets 100000)).text.toList ∧
      IsArtifact 2 (withExtra (brackets 100000)) ∧
      ¬∃ body, load (withExtra (brackets 100000)).text = .ok body := by
  refine ⟨⟨?_, isArtifact_withExtra _, ?_⟩, document_withExtra_brackets 100000, isArtifact_withExtra _,
    load_withExtra_brackets (by decide)⟩
  · exact document_withExtra (n := 0) gap_nil (spells_signed trivial) (spells_signed trivial)
      (by rw [sorted] <;> nofun)
  · rintro ⟨body, hbody⟩
    rw [load_withExtra_int (by rw [Number.length_digits_pow]; omega)] at hbody
    cases hbody

end Stencil.Template
