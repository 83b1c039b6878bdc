import Stencil.Artifacts
import Stencil.Proofs.Files.Folders
/-!
# Writing an artifact

A write goes through a temporary file with a name that is not in use. It either puts the text at the
place of the artifact and changes nothing else, or it fails and changes nothing.
-/

namespace Stencil.Artifacts

theorem decimal_injective {m n : Nat} (h : decimal m = decimal n) : m = n := by
  have hd : Number.digits m = Number.digits n := by
    simpa [decimal] using congrArg String.toList h
  rw [← Number.ofDigits_digits m, hd, Number.ofDigits_digits]

theorem temporaryName_injective {digest : String} {m n : Nat}
    (h : temporaryName digest m = temporaryName digest n) : m = n := by
  apply decimal_injective
  have h := congrArg String.toList h
  simp only [temporaryName, String.toList_append] at h
  exact String.toList_inj.1 (List.append_cancel_left (List.append_cancel_right h))

theorem freeName_cases (used : List String) (digest : String) (fuel n : Nat) :
    freeName used digest fuel n ∉ used ∨ ∀ i ≤ fuel, temporaryName digest (n + i) ∈ used := by
  induction fuel generalizing n with
  | zero =>
    by_cases h : temporaryName digest n ∈ used
    · right
      intro i hi
      obtain rfl : i = 0 := by omega
      exact h
    · exact .inl h
  | succ fuel ih =>
    by_cases h : temporaryName digest n ∈ used
    · rw [freeName, if_pos (List.contains_iff_mem.2 h)]
      rcases ih (n + 1) with hfree | hall
      · exact .inl hfree
      · right
        intro i hi
        cases i with
        | zero => exact h
        | succ i =>
          have := hall i (by omega)
          rwa [Nat.add_assoc, Nat.add_comm 1 i] at this
    · left
      rw [freeName, if_neg (by simpa using h)]
      exact h

theorem freeName_not_mem (used : List String) (digest : String) :
    freeName used digest used.length 0 ∉ used := by
  rcases freeName_cases used digest used.length 0 with h | h
  · exact h
  · have hsub : (List.range (used.length + 1)).map (temporaryName digest) ⊆ used := by
      intro s hs
      obtain ⟨i, hi, rfl⟩ := List.mem_map.1 hs
      simpa using h i (by have := List.mem_range.1 hi; omega)
    have hnodup : ((List.range (used.length + 1)).map (temporaryName digest)).Nodup :=
      List.Pairwise.map _ (fun _ _ hne heq => hne (temporaryName_injective heq)) List.nodup_range
    have hlen := hnodup.length_le_of_subset hsub
    simp only [List.length_map, List.length_range] at hlen
    omega

def temporary (fs : Files) (folder : List String) (digest : String) : List String :=
  folder ++ [freeName (fs.names folder) digest (fs.names folder).length 0]

theorem node?_temporary (fs : Files) (folder : List String) (digest : String) :
    fs.node? (temporary fs folder digest) = none :=
  Files.node?_of_not_mem_names (freeName_not_mem (fs.names folder) digest)

def Same (fs fs' : Files) : Prop := ∀ p, fs'.node? p = fs.node? p

def Written (fs : Files) (target : List String) (content : ByteArray) (fs' : Files) : Prop :=
  ∀ p, fs'.node? p = if p = target then some (.file content) else fs.node? p

theorem isFolder_of_same {fs fs' : Files} {p : List String} (h : fs'.node? p = fs.node? p) :
    fs'.isFolder p = fs.isFolder p := by
  rw [Files.isFolder, Files.isFolder, h]

theorem same_erase {fs fs' : Files} {place : List String} (hfree : fs.node? place = none)
    (h : ∀ p, p ≠ place → fs'.node? p = fs.node? p) : Same fs (fs'.erase place) := by
  have hne : place ≠ [] := by
    rintro rfl
    simp [Files.node?] at hfree
  intro p
  by_cases hp : p = place
  · rw [hp, Files.node?_erase_self hne, hfree]
  · rw [Files.node?_erase_of_ne hp, h p hp]

@[simp] theorem pass_run (trouble : WriteStep → Option Fault) (step : WriteStep) (fs : Files) :
    pass trouble step fs =
      match trouble step with
      | some fault => .error fault fs
      | none => .ok () fs := by
  unfold pass
  cases trouble step <;> rfl

theorem rename_run (source target : List String) (fs : Files) :
    rename source target fs =
      if fs.isFolder target then .error .isDirectory fs
      else
        match fs.node? source with
        | some n => .ok () ((fs.erase source).put target n)
        | none => .error (.notFound none) fs := by
  show (if fs.isFolder target then throw .isDirectory
    else
      match fs.node? source with
      | some n => set ((fs.erase source).put target n)
      | none => throw (.notFound none) : Disk Unit) fs = _
  cases fs.isFolder target with
  | true => rfl
  | false => cases fs.node? source <;> rfl

def fillAndRename (trouble : WriteStep → Option Fault) (place target : List String) (text : String) :
    Disk Unit := do
  pass trouble .fill
  modify fun fs => fs.put place (.file text.toUTF8)
  pass trouble .protect
  pass trouble .replace
  rename place target

theorem write_run (trouble : WriteStep → Option Fault) (folder : List String) (digest text : String)
    (fs : Files) :
    write trouble folder digest text fs =
      match trouble .create with
      | some fault => .error fault fs
      | none =>
        let place := temporary fs folder digest
        match fillAndRename trouble place (folder ++ [fileName digest]) text
            (fs.put place (.file .empty)) with
        | .ok () fs' => .ok () fs'
        | .error fault fs' => .error fault (fs'.erase place) := by
  show (pass trouble .create >>= fun _ => (do
    let place ← createTemporary folder digest
    tryCatch (fillAndRename trouble place (folder ++ [fileName digest]) text) fun fault => do
      modify fun fs => fs.erase place
      throw fault : Disk Unit)) fs = _
  have hcreate : createTemporary folder digest fs =
    .ok (temporary fs folder digest) (fs.put (temporary fs folder digest) (.file .empty)) := rfl
  cases hpass : trouble .create with
  | some fault => simp [hpass]
  | none =>
    cases hfill : fillAndRename trouble (temporary fs folder digest) (folder ++ [fileName digest]) text
        (fs.put (temporary fs folder digest) (.file .empty)) <;>
      simp [hpass, hcreate, hfill]

theorem fillAndRename_run (trouble : WriteStep → Option Fault) (place target : List String)
    (text : String) (fs : Files) :
    fillAndRename trouble place target text fs =
      match trouble .fill with
      | some fault => .error fault fs
      | none =>
        let filled := fs.put place (.file text.toUTF8)
        match trouble .protect, trouble .replace with
        | some fault, _ => .error fault filled
        | none, some fault => .error fault filled
        | none, none => rename place target filled := by
  unfold fillAndRename
  cases hfill : trouble .fill with
  | some fault => simp [hfill]
  | none =>
    cases hprotect : trouble .protect with
    | some fault => simp [hfill, hprotect]
    | none => cases hreplace : trouble .replace <;> simp [hfill, hprotect, hreplace]

theorem fillAndRename_cases (trouble : WriteStep → Option Fault) {place : List String}
    (target : List String) (text : String) {fs : Files} (hfree : fs.node? place = none) :
    (∃ fs', fillAndRename trouble place target text (fs.put place (.file .empty)) = .ok () fs' ∧
      fs.isFolder target = false ∧ Written fs target text.toUTF8 fs') ∨
    (∃ fault fs', fillAndRename trouble place target text (fs.put place (.file .empty)) =
        .error fault fs' ∧
      (∀ p, p ≠ place → fs'.node? p = fs.node? p) ∧
      (trouble = noTrouble → fs.isFolder target = true)) := by
  have hne : place ≠ [] := by
    rintro rfl
    simp [Files.node?] at hfree
  have hput (p) (hp : p ≠ place) : (fs.put place (.file .empty)).node? p = fs.node? p :=
    Files.node?_put_of_ne hp
  rw [fillAndRename_run]
  generalize fs.put place (.file .empty) = created at hput
  have hfill (p) (hp : p ≠ place) :
      (created.put place (.file text.toUTF8)).node? p = fs.node? p := by
    rw [Files.node?_put_of_ne hp, hput p hp]
  have hself : (created.put place (.file text.toUTF8)).node? place = some (.file text.toUTF8) :=
    Files.node?_put_self hne
  cases hf : trouble .fill with
  | some fault => exact .inr ⟨fault, _, rfl, hput, by rintro rfl; cases hf⟩
  | none =>
    dsimp only
    generalize created.put place (.file text.toUTF8) = filled at hfill hself
    cases hp : trouble .protect with
    | some fault => exact .inr ⟨fault, _, rfl, hfill, by rintro rfl; cases hp⟩
    | none =>
      cases hr : trouble .replace with
      | some fault => exact .inr ⟨fault, _, rfl, hfill, by rintro rfl; cases hr⟩
      | none =>
        have hfolder : filled.isFolder target = fs.isFolder target := by
          by_cases ht : target = place
          · simp [Files.isFolder, ht, hself, hfree]
          · exact isFolder_of_same (hfill target ht)
        dsimp only
        rw [rename_run, hfolder, hself]
        cases hd : fs.isFolder target with
        | true => exact .inr ⟨_, _, rfl, hfill, fun _ => rfl⟩
        | false =>
          refine .inl ⟨_, rfl, rfl, ?_⟩
          intro p
          by_cases hpt : p = target
          · have htarget : target ≠ [] := by
              rintro rfl
              simp [Files.isFolder, Files.node?] at hd
            rw [hpt, Files.node?_put_self htarget, if_pos rfl]
          · rw [Files.node?_put_of_ne hpt, if_neg hpt, same_erase hfree hfill p]

theorem write_cases (trouble : WriteStep → Option Fault) (folder : List String) (digest text : String)
    (fs : Files) :
    (∃ fs', write trouble folder digest text fs = .ok () fs' ∧
      fs.isFolder (folder ++ [fileName digest]) = false ∧
      Written fs (folder ++ [fileName digest]) text.toUTF8 fs') ∨
    (∃ fault fs', write trouble folder digest text fs = .error fault fs' ∧ Same fs fs' ∧
      (trouble = noTrouble → fs.isFolder (folder ++ [fileName digest]) = true)) := by
  have hfree := node?_temporary fs folder digest
  rw [write_run]
  cases hc : trouble .create with
  | some fault =>
    refine .inr ⟨fault, fs, rfl, fun _ => rfl, ?_⟩
    rintro rfl
    cases hc
  | none =>
    rcases fillAndRename_cases trouble (folder ++ [fileName digest]) text hfree with
      ⟨fs', hrun, hfolder, hw⟩ | ⟨fault, fs', hrun, hsame, htrouble⟩
    · exact .inl ⟨fs', by simp only [hrun], hfolder, hw⟩
    · exact .inr ⟨fault, _, by simp only [hrun], same_erase hfree hsame, htrouble⟩

end Stencil.Artifacts
