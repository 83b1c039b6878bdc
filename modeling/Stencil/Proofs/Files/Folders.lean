import Stencil.Files
import Stencil.Proofs.Run
/-!
# Places and folders

What stands at a place after a change elsewhere. Files come and go, but no change makes a folder vanish,
so a path that leads to a folder goes on leading there.
-/

namespace Stencil.Files

variable {fs fs' : Files} {place p : List String}

theorem lookup_without_of_ne {entries : List (List String × Node)} (h : p ≠ place) :
    (without place entries).lookup p = entries.lookup p := by
  induction entries with
  | nil => rfl
  | cons e rest ih =>
    obtain ⟨q, n⟩ := e
    unfold without at ih ⊢
    by_cases hq : q = place
    · subst hq
      rw [List.filter_cons_of_neg (by simp), ih, List.lookup_cons, beq_false_of_ne h]
    · rw [List.filter_cons_of_pos (by simpa using hq), List.lookup_cons, List.lookup_cons, ih]

@[simp] theorem lookup_without_self {entries : List (List String × Node)} :
    (without place entries).lookup place = none := by
  rw [List.lookup_eq_none_iff]
  intro e he
  simp only [without, List.mem_filter] at he
  exact bne_iff_ne.2 (Ne.symm (bne_iff_ne.1 he.2))

@[simp] theorem node?_put_self {n : Node} (h : place ≠ []) : (fs.put place n).node? place = some n := by
  simp [node?, put, h]

theorem node?_put_of_ne {n : Node} (h : p ≠ place) : (fs.put place n).node? p = fs.node? p := by
  simp only [node?, put, List.lookup_cons, beq_false_of_ne h, lookup_without_of_ne h]

@[simp] theorem node?_erase_self (h : place ≠ []) : (fs.erase place).node? place = none := by
  simp [node?, erase, h]

theorem node?_erase_of_ne (h : p ≠ place) : (fs.erase place).node? p = fs.node? p := by
  simp only [node?, erase, lookup_without_of_ne h]

@[simp] theorem isFolder_eq_true : fs.isFolder place = true ↔ fs.node? place = some .folder := by
  unfold isFolder
  split <;> simp_all

theorem node?_of_not_mem_names {folder : List String} {name : String} (h : name ∉ fs.names folder) :
    fs.node? (folder ++ [name]) = none := by
  have hne : (folder ++ [name]).isEmpty = false := by simp
  rw [node?, hne]
  simp only [Bool.false_eq_true, ↓reduceIte, List.lookup_eq_none_iff]
  intro e he
  rw [bne_iff_ne]
  intro heq
  apply h
  simp only [names, List.mem_filterMap]
  exact ⟨e, he, by simp [← heq]⟩

def KeepsFolders (fs fs' : Files) : Prop := ∀ p, fs.node? p = some .folder → fs'.node? p = some .folder

theorem KeepsFolders.refl (fs : Files) : KeepsFolders fs fs := fun _ h => h

theorem KeepsFolders.trans {a b c : Files} (h : KeepsFolders a b) (k : KeepsFolders b c) :
    KeepsFolders a c := fun p hp => k p (h p hp)

theorem keepsFolders_put_file {content : ByteArray} (h : fs.node? place ≠ some .folder) :
    KeepsFolders fs (fs.put place (.file content)) := by
  intro p hp
  by_cases hpl : p = place
  · exact absurd (hpl ▸ hp) h
  · rw [node?_put_of_ne hpl, hp]

theorem keepsFolders_put_folder : KeepsFolders fs (fs.put place .folder) := by
  intro p hp
  by_cases hpl : p = place
  · subst hpl
    by_cases hnil : p = []
    · simp [hnil, node?]
    · exact node?_put_self hnil
  · rw [node?_put_of_ne hpl, hp]

theorem keepsFolders_erase (h : fs.node? place ≠ some .folder) : KeepsFolders fs (fs.erase place) := by
  intro p hp
  by_cases hpl : p = place
  · exact absurd (hpl ▸ hp) h
  · rw [node?_erase_of_ne hpl, hp]

theorem KeepsFolders.enter (h : KeepsFolders fs fs') {folder r : List String} {parts : List String}
    (he : fs.enter folder parts = .ok r) : fs'.enter folder parts = .ok r := by
  induction parts generalizing folder with
  | nil => exact he
  | cons part rest ih =>
    obtain ⟨q, hn, he⟩ := exists_of_bind_ok he
    rw [Files.enter, hn]
    split at he
    · next hq =>
      simp only [bind, Except.bind, h q hq]
      exact ih he
    · cases he
    · cases he

theorem enter_append (fs : Files) (folder parts more : List String) :
    fs.enter folder (parts ++ more) = (do fs.enter (← fs.enter folder parts) more) := by
  induction parts generalizing folder with
  | nil => rfl
  | cons part rest ih =>
    rw [List.cons_append, Files.enter, Files.enter]
    cases Files.next folder part with
    | error fault => rfl
    | ok place =>
      simp only [bind, Except.bind]
      split
      · exact ih place
      · rfl
      · rfl

theorem next_plain {folder : List String} {part : String} (hdots : part ≠ "..") (hnul : '\x00' ∉ part.toList)
    (hsize : part.utf8ByteSize ≤ longestName) : next folder part = .ok (folder ++ [part]) := by
  rw [next, if_neg hdots, String.contains_char_eq, if_neg (by simpa using hnul), if_neg (by omega)]

end Stencil.Files
