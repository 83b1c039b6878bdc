import Stencil.Proofs.Artifacts.Read
import Stencil.Proofs.Files.Disk
/-!
# Bringing an artifact up to date

After the work of `ensure` the file of an identity holds the text, whether it had to be written or not.
-/

namespace Stencil.Artifacts

variable {a : Artifacts} {identity text : String} {fs : Files} {folder : List String}

def Blocked (fs : Files) (path : List String) : Prop :=
  ∃ place, fs.find path = .ok place ∧ fs.isFolder place = true

/-- A file that a path leads to does not have the digest of a text unless it holds the text. -/
def Told (fs : Files) (path : List String) (text : String) : Prop :=
  ∀ content, fs.read path = .ok content → Digest.ofBytes content = Digest.ofText text →
    content = text.toUTF8

theorem not_blocked_of_missing (he : fs.enter [] a.folder.parts = .ok folder)
    (h : fs.node? (folder ++ [fileName (Digest.ofText identity)]) = none) : ¬Blocked fs (a.path identity) := by
  rintro ⟨place, hfind, hfolder⟩
  obtain rfl := Except.ok.inj ((find_path he identity).symm.trans hfind)
  rw [Files.isFolder_eq_true, h] at hfolder
  cases hfolder

theorem told_of_missing (he : fs.enter [] a.folder.parts = .ok folder)
    (h : fs.node? (folder ++ [fileName (Digest.ofText identity)]) = none) : Told fs (a.path identity) text := by
  intro content hread
  rw [Files.read, find_path he identity] at hread
  simp only [bind, Except.bind, h] at hread
  cases hread

theorem ensure_run (trouble : WriteStep → Option Fault) :
    a.ensure trouble identity text fs =
      if isCurrent fs (a.path identity) text then .ok false fs
      else
        match fs.enter [] a.folder.parts with
        | .error fault => .error fault fs
        | .ok folder =>
          match write trouble folder (Digest.ofText identity) text fs with
          | .ok () fs' => .ok true fs'
          | .error fault fs' => .error fault fs' := by
  unfold ensure
  cases hcurrent : isCurrent fs (a.path identity) text with
  | true => simp [hcurrent]
  | false =>
    cases henter : fs.enter [] a.folder.parts with
    | error fault => simp [hcurrent, henter]
    | ok folder =>
      cases hwrite : write trouble folder (Digest.ofText identity) text fs <;> simp [hcurrent, henter, hwrite]

theorem isCurrent_iff {path : List String} :
    isCurrent fs path text = true ↔
      ∃ content, fs.read path = .ok content ∧ Digest.ofBytes content = Digest.ofText text := by
  unfold isCurrent
  split <;> simp_all

theorem ensure_cases (trouble : WriteStep → Option Fault)
    (he : fs.enter [] a.folder.parts = .ok folder) :
    (a.ensure trouble identity text fs = .ok false fs ∧ isCurrent fs (a.path identity) text = true) ∨
    (∃ fs', a.ensure trouble identity text fs = .ok true fs' ∧
      isCurrent fs (a.path identity) text = false ∧
      fs.isFolder (folder ++ [fileName (Digest.ofText identity)]) = false ∧
      Written fs (folder ++ [fileName (Digest.ofText identity)]) text.toUTF8 fs') ∨
    (∃ fault fs', a.ensure trouble identity text fs = .error fault fs' ∧ Same fs fs' ∧
      (trouble = noTrouble → fs.isFolder (folder ++ [fileName (Digest.ofText identity)]) = true)) := by
  rw [ensure_run, he]
  cases hc : isCurrent fs (a.path identity) text with
  | true => exact .inl ⟨rfl, rfl⟩
  | false =>
    rcases write_cases trouble folder (Digest.ofText identity) text fs with
      ⟨fs', hrun, hf, hw⟩ | ⟨fault, fs', hrun, hsame, hf⟩
    · exact .inr (.inl ⟨fs', by simp [hrun], rfl, hf, hw⟩)
    · exact .inr (.inr ⟨fault, fs', by simp [hrun], hsame, hf⟩)

theorem keeps_ensure (trouble : WriteStep → Option Fault) (a : Artifacts) (identity text : String) :
    Disk.Keeps (a.ensure trouble identity text) := by
  intro fs
  cases he : fs.enter [] a.folder.parts with
  | error fault =>
    rw [ensure_run, he]
    split <;> exact Files.KeepsFolders.refl fs
  | ok folder =>
    rcases ensure_cases trouble he with ⟨hrun, -⟩ | ⟨fs', hrun, -, hf, hw⟩ | ⟨fault, fs', hrun, hsame, -⟩
    · rw [hrun]
      exact Files.KeepsFolders.refl fs
    · rw [hrun]
      exact KeepsFolders.of_written hw hf
    · rw [hrun]
      exact KeepsFolders.of_same hsame

theorem ensure_read (he : fs.enter [] a.folder.parts = .ok folder) (hb : ¬Blocked fs (a.path identity))
    (ht : Told fs (a.path identity) text) :
    ∃ written fs', a.ensure noTrouble identity text fs = .ok written fs' ∧
      fs'.read (a.path identity) = .ok text.toUTF8 := by
  rcases ensure_cases noTrouble he with ⟨hrun, hc⟩ | ⟨fs', hrun, -, hf, hw⟩ | ⟨fault, fs', -, -, hf⟩
  · obtain ⟨content, hread, hdigest⟩ := isCurrent_iff.1 hc
    obtain rfl := ht content hread hdigest
    exact ⟨false, fs, hrun, hread⟩
  · exact ⟨true, fs', hrun, read_written he hf hw⟩
  · exact absurd ⟨_, find_path he identity, hf rfl⟩ hb

end Stencil.Artifacts
