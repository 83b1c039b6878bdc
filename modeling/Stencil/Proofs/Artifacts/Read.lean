import Stencil.Proofs.Artifacts.Write
import Stencil.Proofs.Json.Scalar
/-!
# Reading an artifact

The name of an artifact is an ordinary file name, so its path leads straight into the folder of the
artifacts, and a text without control characters is read as it was written.
-/

namespace Stencil.Artifacts

@[simp] theorem length_hexDigits (width n : Nat) : (Text.hexDigits width n).length = width := by
  induction width generalizing n with
  | zero => rfl
  | succ w ih => simp [Text.hexDigits, ih]

theorem isHex_of_mem_hexDigits {width n : Nat} {c : Char} (h : c ∈ Text.hexDigits width n) :
    ∃ d, d < 16 ∧ c = Text.hexDigit d := by
  induction width generalizing n with
  | zero => simp [Text.hexDigits] at h
  | succ w ih =>
    rw [Text.hexDigits, List.mem_append, List.mem_singleton] at h
    rcases h with h | rfl
    · exact ih h
    · exact ⟨n % 16, Nat.mod_lt n (by omega), rfl⟩

@[simp] theorem length_lowBytes (count n : Nat) : (Digest.lowBytes count n).length = count := by
  induction count generalizing n with
  | zero => rfl
  | succ k ih => simp [Digest.lowBytes, ih]

@[simp] theorem length_digest (message : ByteArray) : (Digest.ofBytes message).toList.length = 32 := by
  have hbytes : (Digest.bytes message).length = 16 := by
    simp [Digest.bytes]
  simp [Digest.ofBytes, List.length_flatMap, List.map_const', hbytes]

theorem isHex_of_mem_digest {message : ByteArray} {c : Char} (h : c ∈ (Digest.ofBytes message).toList) :
    ∃ d, d < 16 ∧ c = Text.hexDigit d := by
  simp only [Digest.ofBytes, String.toList_ofList, List.mem_flatMap] at h
  obtain ⟨b, -, hc⟩ := h
  exact isHex_of_mem_hexDigits hc

theorem hexDigit_plain {d : Nat} (h : d < 16) :
    Text.hexDigit d ≠ '\x00' ∧ (Text.hexDigit d).utf8Size = 1 := by
  revert d
  decide

theorem utf8ByteSize_of_ascii {s : List Char} (h : ∀ c ∈ s, c.utf8Size = 1) :
    (String.ofList s).utf8ByteSize = s.length := by
  induction s with
  | nil => rfl
  | cons c rest ih =>
    rw [String.ofList_cons, String.utf8ByteSize_append, String.utf8ByteSize_singleton,
      h c List.mem_cons_self, ih fun x hx => h x (List.mem_cons_of_mem _ hx), List.length_cons,
      Nat.add_comm]

theorem next_fileName (folder : List String) (message : ByteArray) :
    Files.next folder (fileName (Digest.ofBytes message)) =
      .ok (folder ++ [fileName (Digest.ofBytes message)]) := by
  have hlist : (fileName (Digest.ofBytes message)).toList =
      (Digest.ofBytes message).toList ++ ['.', 'j', 's', 'o', 'n'] := by
    simp [fileName]
  have hplain : ∀ c ∈ (fileName (Digest.ofBytes message)).toList, c ≠ '\x00' ∧ c.utf8Size = 1 := by
    have hext : ∀ c ∈ ['.', 'j', 's', 'o', 'n'], c ≠ '\x00' ∧ c.utf8Size = 1 := by simp [Char.utf8Size]
    rw [hlist]
    intro c hc
    rcases List.mem_append.1 hc with hc | hc
    · obtain ⟨d, hd, rfl⟩ := isHex_of_mem_digest hc
      exact ⟨(hexDigit_plain hd).1, (hexDigit_plain hd).2⟩
    · exact hext c hc
  have hsize : (fileName (Digest.ofBytes message)).utf8ByteSize = 37 := by
    have := utf8ByteSize_of_ascii fun c hc => (hplain c hc).2
    rw [String.ofList_toList, hlist] at this
    simpa  using this
  have hdots : fileName (Digest.ofBytes message) ≠ ".." := by
    intro h
    rw [h] at hsize
    exact absurd hsize (by decide)
  refine Files.next_plain hdots (fun h => (hplain _ h).1 rfl) ?_
  rw [hsize]
  decide

theorem find_path {a : Artifacts} {fs : Files} {folder : List String}
    (h : fs.enter [] a.folder.parts = .ok folder) (identity : String) :
    fs.find (a.path identity) = .ok (folder ++ [fileName (Digest.ofText identity)]) := by
  rw [Files.find, path, List.getLast?_concat]
  simp only [List.dropLast_concat, h, bind, Except.bind]
  exact next_fileName folder identity.toUTF8

theorem KeepsFolders.of_same {fs fs' : Files} (h : Same fs fs') : fs.KeepsFolders fs' :=
  fun p hp => (h p).trans hp

theorem KeepsFolders.of_written {fs fs' : Files} {target : List String} {content : ByteArray}
    (h : Written fs target content fs') (hf : fs.isFolder target = false) : fs.KeepsFolders fs' := by
  intro p hp
  rw [h p, if_neg]
  · exact hp
  · rintro rfl
    rw [Files.isFolder_eq_true.2 hp] at hf
    cases hf

theorem read_written {a : Artifacts} {fs fs' : Files} {folder : List String} {identity : String}
    {content : ByteArray} (h : fs.enter [] a.folder.parts = .ok folder)
    (hf : fs.isFolder (folder ++ [fileName (Digest.ofText identity)]) = false)
    (hw : Written fs (folder ++ [fileName (Digest.ofText identity)]) content fs') :
    fs'.read (a.path identity) = .ok content := by
  have henter := (KeepsFolders.of_written hw hf).enter h
  rw [Files.read, find_path henter]
  simp only [bind, Except.bind, hw _, ↓reduceIte]

theorem unifyLines_of_printable {s : List Char} (h : Json.Printable s) : Text.unifyLines s = s := by
  have hne : '\r' ∉ s := fun hr => absurd (h _ hr) (by decide)
  fun_induction Text.unifyLines s with
  | case1 => rfl
  | case2 rest => simp at hne
  | case3 c rest hc ih =>
    rw [Json.printable_cons] at h
    have hcr : c ≠ '\r' := by
      rintro rfl
      simp at hne
    rw [if_neg hcr, ih h.2 fun hr => hne (List.mem_cons_of_mem _ hr)]

@[simp] theorem fromUTF8?_toUTF8 (text : String) : String.fromUTF8? text.toUTF8 = some text := by
  rw [String.fromUTF8?, String.toUTF8_eq_toByteArray, dif_pos text.isValidUTF8]
  rfl

theorem readText_of_read {fs : Files} {parts : List String} {text : String}
    (hr : fs.read parts = .ok text.toUTF8) (hp : Json.Printable text.toList) :
    fs.readText parts = .ok text := by
  simp only [Files.readText, hr, bind, Except.bind, fromUTF8?_toUTF8, unifyLines_of_printable hp,
    String.ofList_toList]

end Stencil.Artifacts
