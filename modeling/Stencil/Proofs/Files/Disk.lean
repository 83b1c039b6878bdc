import Stencil.Proofs.Files.Folders
/-!
# Changes of files

What the changes that a program makes do to a tree, run by run. None makes a folder vanish, and a folder
that has been asked for is there afterwards.
-/

namespace Stencil

namespace Files

theorem KeepsFolders.find {fs fs' : Files} {place parts : List String} (h : fs.KeepsFolders fs')
    (hf : fs.find parts = .ok place) : fs'.find parts = .ok place := by
  unfold Files.find at hf ⊢
  cases hp : parts.getLast? with
  | none =>
    rw [hp] at hf
    exact hf
  | some part =>
    rw [hp] at hf
    obtain ⟨folder, he, hf⟩ := exists_of_bind_ok hf
    simp only [h.enter he]
    exact hf

theorem enter_eq_ok_iff {fs : Files} {place parts : List String} :
    fs.enter [] parts = .ok place ↔ fs.find parts = .ok place ∧ fs.node? place = some .folder := by
  unfold Files.find
  rcases List.eq_nil_or_concat parts with rfl | ⟨front, part, rfl⟩
  · constructor
    · intro h
      obtain rfl := Except.ok.inj h
      exact ⟨rfl, rfl⟩
    · exact fun h => h.1
  · rw [List.concat_eq_append, List.getLast?_concat, enter_append]
    simp only [List.dropLast_concat, bind, Except.bind]
    cases fs.enter [] front with
    | error fault => simp
    | ok folder =>
      simp only [enter, bind, Except.bind]
      cases next folder part with
      | error fault => simp
      | ok inner =>
        dsimp only
        constructor
        · intro h
          split at h
          · next hn =>
            obtain rfl := Except.ok.inj h
            exact ⟨rfl, hn⟩
          · cases h
          · cases h
        · rintro ⟨h, hn⟩
          obtain rfl := Except.ok.inj h
          simp only [hn]

end Files

namespace Disk

open Files

variable {α : Type} {fs fs' : Files} {parts : List String}

@[simp] theorem ask_run (question : Files → Except Fault α) (fs : Files) :
    ask question fs =
      match question fs with
      | .ok a => .ok a fs
      | .error fault => .error fault fs := by
  show (MonadExcept.ofExcept (question fs) : Disk α) fs = _
  cases question fs <;> rfl

theorem write_run (parts : List String) (content : ByteArray) (fs : Files) :
    write parts content fs =
      match fs.find parts with
      | .error fault => .error fault fs
      | .ok place =>
        if fs.isFolder place then .error .isDirectory fs else .ok () (fs.put place (.file content)) := by
  unfold write
  cases hfind : fs.find parts with
  | error fault => simp [hfind]
  | ok place => cases hfolder : fs.isFolder place <;> simp [hfind, hfolder]

theorem remove_run (parts : List String) (fs : Files) :
    remove parts fs =
      match fs.find parts with
      | .error fault => .error fault fs
      | .ok place =>
        match fs.node? place with
        | some (.file _) => .ok () (fs.erase place)
        | some .folder => .error .isDirectory fs
        | none => .error (.notFound none) fs := by
  unfold remove
  cases hfind : fs.find parts with
  | error fault => simp [hfind]
  | ok place => rcases hnode : fs.node? place with _ | _ | _ <;> simp [hfind, hnode]

theorem makeFolder_run (parts : List String) (fs : Files) :
    makeFolder parts fs =
      match fs.find parts with
      | .error fault => .error fault fs
      | .ok place =>
        match fs.node? place with
        | some _ => .error .alreadyExists fs
        | none => .ok () (fs.put place .folder) := by
  unfold makeFolder
  cases hfind : fs.find parts with
  | error fault => simp [hfind]
  | ok place => cases hnode : fs.node? place <;> simp [hfind, hnode]

theorem ensureFolder_run (parts : List String) (fs : Files) :
    ensureFolder parts fs =
      match makeFolder parts fs with
      | .ok () fs' => .ok () fs'
      | .error fault fs' =>
        match fs'.find parts with
        | .ok place => if fs'.isFolder place then .ok () fs' else .error fault fs'
        | .error _ => .error fault fs' := by
  unfold ensureFolder
  cases hmake : makeFolder parts fs with
  | ok u fs' => simp [hmake]
  | error fault fs' =>
    cases hfind : fs'.find parts with
    | error e => simp [hmake, hfind]
    | ok place =>
      cases hfolder : fs'.isFolder place with
      | true =>
        simp [hmake, hfind, hfolder]
        rfl
      | false => simp [hmake, hfind, hfolder]

theorem ensureFolders_run (parts : List String) (fs : Files) :
    ensureFolders parts fs =
      match ensureFolder parts fs with
      | .ok () fs' => .ok () fs'
      | .error fault fs' =>
        match fault, parts with
        | .notFound _, _ :: _ =>
          match ensureFolders parts.dropLast fs' with
          | .ok () fs' => ensureFolder parts fs'
          | .error fault fs' => .error fault fs'
        | fault, _ => .error fault fs' := by
  rw [ensureFolders]
  cases hensure : ensureFolder parts fs with
  | ok u fs' => simp [hensure]
  | error fault fs' =>
    cases fault with
    | notFound name =>
      cases parts with
      | nil => simp [hensure]
      | cons part rest => cases hfirst : ensureFolders (part :: rest).dropLast fs' <;> simp [hensure, hfirst]
    | _ => simp [hensure]

theorem makeFolder_ok {u : Unit} (h : makeFolder parts fs = .ok u fs') :
    ∃ place, fs'.enter [] parts = .ok place := by
  rw [makeFolder_run] at h
  cases hf : fs.find parts with
  | error fault =>
    rw [hf] at h
    cases h
  | ok place =>
    simp only [hf] at h
    cases hn : fs.node? place with
    | some n =>
      rw [hn] at h
      cases h
    | none =>
      rw [hn] at h
      cases h
      have hne : place ≠ [] := by
        rintro rfl
        simp [node?] at hn
      exact ⟨place, enter_eq_ok_iff.2 ⟨keepsFolders_put_folder.find hf, node?_put_self hne⟩⟩

theorem ensureFolder_ok {u : Unit} (h : ensureFolder parts fs = .ok u fs') :
    ∃ place, fs'.enter [] parts = .ok place := by
  rw [ensureFolder_run] at h
  cases hm : makeFolder parts fs with
  | ok v made =>
    rw [hm] at h
    cases h
    exact makeFolder_ok hm
  | error fault made =>
    simp only [hm] at h
    cases hf : made.find parts with
    | error e =>
      rw [hf] at h
      cases h
    | ok place =>
      simp only [hf] at h
      split at h
      · next hfolder =>
        cases h
        exact ⟨place, enter_eq_ok_iff.2 ⟨hf, isFolder_eq_true.1 hfolder⟩⟩
      · cases h

theorem ensureFolders_ok {u : Unit} (h : ensureFolders parts fs = .ok u fs') :
    ∃ place, fs'.enter [] parts = .ok place := by
  rw [ensureFolders_run] at h
  cases he : ensureFolder parts fs with
  | ok v made =>
    rw [he] at h
    cases h
    exact ensureFolder_ok he
  | error fault made =>
    simp only [he] at h
    split at h
    · split at h
      · exact ensureFolder_ok h
      · cases h
    · cases h

theorem ensureFolders_of_enter {place : List String} (h : fs.enter [] parts = .ok place) :
    ensureFolders parts fs = .ok () fs := by
  obtain ⟨hfind, hnode⟩ := enter_eq_ok_iff.1 h
  have hmake : makeFolder parts fs = .error .alreadyExists fs := by
    rw [makeFolder_run, hfind]
    simp only [hnode]
  have hensure : ensureFolder parts fs = .ok () fs := by
    rw [ensureFolder_run, hmake]
    simp only [hfind, isFolder_eq_true.2 hnode, ↓reduceIte]
  rw [ensureFolders_run, hensure]

def Keeps (x : Disk α) : Prop := Leads KeepsFolders x

theorem keeps_pure (a : α) : Keeps (pure a) := fun fs => KeepsFolders.refl fs

theorem Keeps.bind {β : Type} {x : Disk α} {f : α → Disk β} (hx : Keeps x) (hf : ∀ a, Keeps (f a)) :
    Keeps (x >>= f) :=
  Leads.bind (R := KeepsFolders) (fun h k => h.trans k) hx hf

theorem keeps_ask (question : Files → Except Fault α) : Keeps (ask question) := by
  intro fs
  rw [ask_run]
  cases question fs <;> exact KeepsFolders.refl fs

theorem keeps_write (parts : List String) (content : ByteArray) : Keeps (write parts content) := by
  intro fs
  rw [write_run]
  cases fs.find parts with
  | error fault => exact KeepsFolders.refl fs
  | ok place =>
    dsimp only
    split
    · exact KeepsFolders.refl fs
    · next hfolder => exact keepsFolders_put_file fun h => hfolder (isFolder_eq_true.2 h)

theorem keeps_remove (parts : List String) : Keeps (remove parts) := by
  intro fs
  rw [remove_run]
  cases fs.find parts with
  | error fault => exact KeepsFolders.refl fs
  | ok place =>
    dsimp only
    split
    · next hn =>
      refine keepsFolders_erase ?_
      rw [hn]
      nofun
    · exact KeepsFolders.refl fs
    · exact KeepsFolders.refl fs

theorem keeps_makeFolder (parts : List String) : Keeps (makeFolder parts) := by
  intro fs
  rw [makeFolder_run]
  cases fs.find parts with
  | error fault => exact KeepsFolders.refl fs
  | ok place =>
    dsimp only
    split
    · exact KeepsFolders.refl fs
    · exact keepsFolders_put_folder

theorem keeps_ensureFolder (parts : List String) : Keeps (ensureFolder parts) := by
  intro fs
  have hmake := keeps_makeFolder parts fs
  rw [ensureFolder_run]
  cases hm : makeFolder parts fs with
  | ok u made =>
    rw [hm] at hmake
    exact hmake
  | error fault made =>
    rw [hm] at hmake
    dsimp only
    split
    · split <;> exact hmake
    · exact hmake

theorem keeps_ensureFolders (parts : List String) : Keeps (ensureFolders parts) := by
  intro fs
  have hfirst := keeps_ensureFolder parts fs
  rw [ensureFolders_run]
  cases he : ensureFolder parts fs with
  | ok u made =>
    rw [he] at hfirst
    exact hfirst
  | error fault made =>
    rw [he] at hfirst
    dsimp only
    split
    · next part rest =>
      -- the enclosing folders are made first, and then the folder is tried once more
      have hupper := keeps_ensureFolders (part :: rest).dropLast made
      cases hu : ensureFolders (part :: rest).dropLast made with
      | ok u upper =>
        rw [hu] at hupper
        exact (hfirst.trans hupper).trans (keeps_ensureFolder (part :: rest) upper)
      | error fault upper =>
        rw [hu] at hupper
        exact hfirst.trans hupper
    · exact hfirst
termination_by parts.length

section

variable {p : List String} {content : ByteArray}

theorem file_write {new : ByteArray} (h : (left (write parts new fs)).node? p = some (.file content)) :
    fs.node? p = some (.file content) ∨ fs.find parts = .ok p ∧ fs.isFolder p = false := by
  rw [write_run] at h
  cases hf : fs.find parts with
  | error fault =>
    rw [hf] at h
    exact .inl h
  | ok place =>
    simp only [hf] at h
    split at h
    · exact .inl h
    · next hfolder =>
      by_cases hplace : p = place
      · subst hplace
        exact .inr ⟨rfl, Bool.eq_false_iff.2 hfolder⟩
      · rw [left, node?_put_of_ne hplace] at h
        exact .inl h

theorem file_remove (h : (left (remove parts fs)).node? p = some (.file content)) :
    fs.node? p = some (.file content) := by
  rw [remove_run] at h
  cases hf : fs.find parts with
  | error fault =>
    rw [hf] at h
    exact h
  | ok place =>
    simp only [hf] at h
    split at h
    · next hn =>
      by_cases hplace : p = place
      · have hne : place ≠ [] := by
          rintro rfl
          simp [node?] at hn
        rw [hplace, left, node?_erase_self hne] at h
        cases h
      · rwa [left, node?_erase_of_ne hplace] at h
    · exact h
    · exact h

theorem file_makeFolder (h : (left (makeFolder parts fs)).node? p = some (.file content)) :
    fs.node? p = some (.file content) := by
  rw [makeFolder_run] at h
  cases hf : fs.find parts with
  | error fault =>
    rw [hf] at h
    exact h
  | ok place =>
    simp only [hf] at h
    split at h
    · exact h
    · next hn =>
      by_cases hplace : p = place
      · have hne : place ≠ [] := by
          rintro rfl
          simp [node?] at hn
        rw [hplace, left, node?_put_self hne] at h
        cases h
      · rwa [left, node?_put_of_ne hplace] at h

end

end Disk

end Stencil
