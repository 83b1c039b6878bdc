import Stencil.Proofs.Artifacts.Read
import Stencil.Proofs.Template.Artifact
/-!
# From a tree to a file and back

The file that a write leaves is read as the text that was written, and the artifact of a tree as the tree.
-/

namespace Stencil.Artifacts

theorem write_read {a : Artifacts} {fs : Files} {folder : List String} {identity : String}
    (text : String) (he : fs.enter [] a.folder.parts = .ok folder)
    (hf : fs.isFolder (folder ++ [fileName (Digest.ofText identity)]) = false) :
    ∃ fs', write noTrouble folder (Digest.ofText identity) text fs = .ok () fs' ∧
      fs'.read (a.path identity) = .ok text.toUTF8 := by
  rcases write_cases noTrouble folder (Digest.ofText identity) text fs with
    ⟨fs', hrun, -, hw⟩ | ⟨fault, fs', -, -, hfolder⟩
  · exact ⟨fs', hrun, read_written he hf hw⟩
  · rw [hfolder rfl] at hf
    cases hf

end Stencil.Artifacts

namespace Stencil.Template

open Instruction Artifacts

theorem dump_injective {a b : Body} (ha : Proper a) (hb : Proper b)
    (h : dump (fields a) = dump (fields b)) : a = b := by
  -- any room that does for both trees
  have hload := load_dump_fields ha (Nat.le_max_left (calls a) (calls b))
  rw [h, load_dump_fields hb (Nat.le_max_right (calls a) (calls b))] at hload
  exact fields_injective (Except.ok.inj hload).symm

/-- The artifact of a tree of texts is the tree in another form. When there is room for the calls that its nesting
takes, it is written and read as the tree, at once or from the file that it was written to. It holds no control
character, and no other tree has the same one. -/
theorem artifact_faithful {body : Body} {room : Nat} (h : Proper body) (hroom : calls body ≤ room) :
    dumpWithin room (fields body) = .ok (dump (fields body)) ∧
    loadWithin room (dump (fields body)) = .ok (fields body) ∧
    (∀ c ∈ (dump (fields body)).toList, 32 ≤ c.toNat) ∧
    (∀ (a : Artifacts) (fs : Files) (folder : List String) (identity : String),
      fs.enter [] a.folder.parts = .ok folder →
      fs.isFolder (folder ++ [fileName (Digest.ofText identity)]) = false →
      ∃ fs', write noTrouble folder (Digest.ofText identity) (dump (fields body)) fs = .ok () fs' ∧
        fs'.read (a.path identity) = .ok (dump (fields body)).toUTF8 ∧
        (do loadWithin room (← fs'.readText (a.path identity))) = .ok (fields body)) ∧
    ∀ other : Body, Proper other → dump (fields other) = dump (fields body) → other = body := by
  have hp : Json.Printable (dump (fields body)).toList := printable_dump (readable_fields h)
  have hload := load_dump_fields h hroom
  refine ⟨dump_fields h hroom, hload, hp, ?_, fun other ho heq => dump_injective ho h heq⟩
  intro a fs folder identity he hf
  obtain ⟨fs', hrun, hread⟩ := write_read (dump (fields body)) he hf
  refine ⟨fs', hrun, hread, ?_⟩
  rw [readText_of_read hread hp]
  exact hload

theorem artifact_faithful_sample :
    let body : Body := [.literal "a\r\n\"\\\u2028",
      .choose [.mk "x" [.loop "xs" none "v" [.echo "v"]]] (some [])]
    let files := Files.empty.put ["cached"] .folder
    Proper body ∧ calls body ≤ callRoom ∧ load (dump (fields body)) = .ok (fields body) ∧
      ∃ fs', write noTrouble ["cached"] (Digest.ofText "/a.tmpl") (dump (fields body)) files = .ok () fs' ∧
        (do load (← fs'.readText (path ⟨⟨.one, ["cached"]⟩⟩ "/a.tmpl"))) = .ok (fields body) := by
  intro body files
  have hbody : Proper body := by simp [body, Proper, SoundAll, Sound, SoundArms]
  have hroom : calls body ≤ callRoom := by decide
  have hnext : Files.next [] "cached" = .ok ["cached"] :=
    Files.next_plain (by decide) (by decide) (by decide)
  have he : files.enter [] ["cached"] = .ok ["cached"] := by
    rw [Files.enter, hnext]
    rfl
  have hf : files.isFolder (["cached"] ++ [fileName (Digest.ofText "/a.tmpl")]) = false := by
    simp [files, Files.isFolder, Files.node?, Files.put, Files.empty, Files.without, List.lookup_cons]
  obtain ⟨-, hload, -, hfile, -⟩ := artifact_faithful hbody hroom
  obtain ⟨fs', hrun, -, hread⟩ := hfile ⟨⟨.one, ["cached"]⟩⟩ files ["cached"] "/a.tmpl" he hf
  exact ⟨hbody, hroom, hload, fs', hrun, hread⟩

def choices : Nat → Body
  | 0 => []
  | n + 1 => [.choose [.mk "x" (choices n)] none]

theorem proper_choices (n : Nat) : Proper (choices n) := by
  induction n with
  | zero => trivial
  | succ n ih => exact ⟨⟨trivial, ih, trivial⟩, trivial⟩

@[simp] theorem depth_choices (n : Nat) : (toJson (fields (choices n))).depth = 4 * n + 2 := by
  have hitems : Json.depthItems (allToJson (fields (choices n))) = 4 * n := by
    induction n with
    | zero => rfl
    | succ n ih =>
      have hstep : fields (choices (n + 1)) = [.choose [.mk (.str "x") (fields (choices n))] none] := rfl
      simp [hstep, allToJson, armsToJson, Json.depthItems, ih]
      simp [Json.depth]
      omega
  rw [depth_toJson, hitems]

theorem dumpWithin_choices {n room : Nat} (h : room < 4 * n + 2) :
    dumpWithin room (fields (choices n)) = .error .tooDeep :=
  if_neg (by rw [depth_choices]; omega)

/-- Not every tree of texts has an artifact: its nesting may be too deep. -/
theorem deep_choices_refused :
    Proper (choices 1000) ∧ dumpWithin callRoom (fields (choices 1000)) = .error .tooDeep ∧
      (do loadWithin callRoom (← dumpWithin callRoom (fields (choices 1000)))) ≠ .ok (fields (choices 1000)) := by
  have hdump : dumpWithin callRoom (fields (choices 1000)) = .error .tooDeep := dumpWithin_choices (by decide)
  refine ⟨proper_choices 1000, hdump, ?_⟩
  rw [hdump]
  nofun

end Stencil.Template
