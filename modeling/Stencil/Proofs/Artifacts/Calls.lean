import Stencil.Proofs.Artifacts.Ensure
/-!
# Calls of a store, one after another

Each call brings one artifact up to date, and each may fail at any step of its write. A call is all or
nothing, so after any sequence of calls an artifact holds the text of the last one for it that returned.
-/

namespace Stencil.Artifacts

variable {a : Artifacts} {s t : Files} {place folder : List String} {identity : String}

/-- A call for an identity, with the steps of its write that fail. -/
structure Call where
  trouble : WriteStep → Option Fault
  identity : String
  text : String

def Call.run (c : Call) (a : Artifacts) : Disk Bool := a.ensure c.trouble c.identity c.text

/-- The tree after some calls, some of which may have failed. -/
def treeAfter (a : Artifacts) (fs : Files) : List Call → Files
  | [] => fs
  | c :: rest => treeAfter a (left (c.run a fs)) rest

def returned (a : Artifacts) (identity : String) (fs : Files) (c : Call) : Option String :=
  match c.run a fs with
  | .ok _ _ => if c.identity = identity then some c.text else none
  | .error _ _ => none

/-- The text of the last call for an identity that returns. -/
def lastReturned (a : Artifacts) (identity : String) (fs : Files) : List Call → Option String
  | [] => none
  | c :: rest => lastReturned a identity (left (c.run a fs)) rest <|> returned a identity fs c

/-- The file for an identity cannot be written: a folder stands in its place, or the folder that it
belongs to cannot be entered. -/
def Obstructed (a : Artifacts) (s : Files) (identity : String) : Prop :=
  Blocked s (a.path identity) ∨ ∀ folder, s.enter [] a.folder.parts ≠ .ok folder

/-- What a call may do. When it returns, its artifact holds its text and every other place is as it was.
It has written just if the artifact did not hold the text before, and then no step failed. When it fails,
every place is as it was, and the text was to be written and could not be. -/
def AllOrNothing (a : Artifacts) (c : Call) (s : Files) : EStateM.Result Fault Files Bool → Prop
  | .ok written t =>
    t.read (a.path c.identity) = .ok c.text.toUTF8 ∧
      (∀ p, s.find (a.path c.identity) ≠ .ok p → t.node? p = s.node? p) ∧
      (written = true ↔ s.read (a.path c.identity) ≠ .ok c.text.toUTF8) ∧
      if written then ∀ step, c.trouble step = none else t = s
  | .error _ t => Same s t ∧ s.read (a.path c.identity) ≠ .ok c.text.toUTF8 ∧
      (c.trouble ≠ noTrouble ∨ a.Obstructed s c.identity)

/-- The bytes that calls compare: their texts, and what stands at their artifacts before them. -/
def Compared (a : Artifacts) (fs : Files) (calls : List Call) (content : ByteArray) : Prop :=
  ∃ c ∈ calls, content = c.text.toUTF8 ∨ fs.read (a.path c.identity) = .ok content

/-- No two identities have one digest, and no two of the bytes that are compared. -/
structure Apart (a : Artifacts) (fs : Files) (calls : List Call) : Prop where
  identities : ∀ c ∈ calls, ∀ d ∈ calls, Digest.ofText c.identity = Digest.ofText d.identity →
    c.identity = d.identity
  contents : ∀ x y, Compared a fs calls x → Compared a fs calls y → Digest.ofBytes x = Digest.ofBytes y →
    x = y

theorem Same.enter (h : Same s t) (folder parts : List String) :
    t.enter folder parts = s.enter folder parts := by
  induction parts generalizing folder with
  | nil => rfl
  | cons part rest ih =>
    rw [Files.enter, Files.enter]
    cases Files.next folder part with
    | error fault => rfl
    | ok place =>
      simp only [bind, Except.bind, h place, ih]

theorem Same.find (h : Same s t) (parts : List String) : t.find parts = s.find parts := by
  simp only [Files.find, h.enter]

theorem Same.read (h : Same s t) (parts : List String) : t.read parts = s.read parts := by
  simp only [Files.read, h.find, h _]

theorem fileName_injective {d d' : String} (h : fileName d = fileName d') : d = d' := by
  have h := congrArg String.toList h
  simp only [fileName, String.toList_append] at h
  exact String.toList_inj.1 (List.append_cancel_right h)

theorem read_elsewhere {other : String} {content : ByteArray} (he : s.enter [] a.folder.parts = .ok folder)
    (hf : s.isFolder (folder ++ [fileName (Digest.ofText identity)]) = false)
    (hw : Written s (folder ++ [fileName (Digest.ofText identity)]) content t)
    (hne : Digest.ofText other ≠ Digest.ofText identity) :
    t.read (a.path other) = s.read (a.path other) := by
  have henter := (KeepsFolders.of_written hw hf).enter he
  have hplace : folder ++ [fileName (Digest.ofText other)] ≠ folder ++ [fileName (Digest.ofText identity)] := by
    intro h
    have hname := List.append_cancel_left h
    exact hne (fileName_injective (List.cons.inj hname).1)
  simp only [Files.read, find_path henter, find_path he, bind, Except.bind, hw _, if_neg hplace]

theorem write_of_trouble {trouble : WriteStep → Option Fault} {step : WriteStep} {fault : Fault}
    (h : trouble step = some fault) (folder : List String) (digest text : String) (fs : Files) :
    ∃ fault fs', write trouble folder digest text fs = .error fault fs' := by
  rw [write_run]
  cases hc : trouble .create with
  | some fault => exact ⟨fault, _, rfl⟩
  | none =>
    have hrun : ∃ fault fs', fillAndRename trouble (temporary fs folder digest) (folder ++ [fileName digest])
        text (fs.put (temporary fs folder digest) (.file .empty)) = .error fault fs' := by
      rw [fillAndRename_run]
      cases hf : trouble .fill with
      | some fault => exact ⟨fault, _, rfl⟩
      | none =>
        cases hp : trouble .protect with
        | some fault => exact ⟨fault, _, rfl⟩
        | none =>
          cases hr : trouble .replace with
          | some fault => exact ⟨fault, _, rfl⟩
          | none => cases step <;> simp_all
    obtain ⟨fault, fs', hrun⟩ := hrun
    exact ⟨fault, _, by simp only [hrun]; rfl⟩

theorem run_cases (a : Artifacts) (c : Call) (s : Files) :
    (c.run a s = .ok false s ∧ isCurrent s (a.path c.identity) c.text = true) ∨
    (∃ folder t, c.run a s = .ok true t ∧ isCurrent s (a.path c.identity) c.text = false ∧
      s.enter [] a.folder.parts = .ok folder ∧
      s.isFolder (folder ++ [fileName (Digest.ofText c.identity)]) = false ∧
      Written s (folder ++ [fileName (Digest.ofText c.identity)]) c.text.toUTF8 t ∧
      ∀ step, c.trouble step = none) ∨
    (∃ fault t, c.run a s = .error fault t ∧ isCurrent s (a.path c.identity) c.text = false ∧
      Same s t ∧ (c.trouble ≠ noTrouble ∨ a.Obstructed s c.identity)) := by
  unfold Call.run
  cases he : s.enter [] a.folder.parts with
  | error fault =>
    rw [ensure_run, he]
    cases isCurrent s (a.path c.identity) c.text with
    | true => exact .inl ⟨rfl, rfl⟩
    | false =>
      refine .inr (.inr ⟨fault, s, rfl, rfl, fun _ => rfl, .inr (.inr fun folder h => ?_)⟩)
      rw [he] at h
      cases h
  | ok folder =>
    rcases ensure_cases c.trouble he with h | ⟨t, hrun, hc, hf, hw⟩ | ⟨fault, t, hrun, hsame, hf⟩
    · exact .inl h
    · refine .inr (.inl ⟨folder, t, hrun, hc, rfl, hf, hw, fun step => ?_⟩)
      cases hs : c.trouble step with
      | none => rfl
      | some fault =>
        obtain ⟨fault, t', hwrite⟩ := write_of_trouble hs folder (Digest.ofText c.identity) c.text s
        rw [ensure_run, hc, he] at hrun
        simp only [hwrite] at hrun
        cases hrun
    · have hc : isCurrent s (a.path c.identity) c.text = false := by
        rw [ensure_run] at hrun
        cases hc : isCurrent s (a.path c.identity) c.text with
        | true =>
          rw [hc] at hrun
          cases hrun
        | false => rfl
      refine .inr (.inr ⟨fault, t, hrun, hc, hsame, ?_⟩)
      by_cases htrouble : c.trouble = noTrouble
      · exact .inr (.inl ⟨_, find_path he c.identity, hf htrouble⟩)
      · exact .inl htrouble

/-- Where a file with the digest of a text has to hold the text, the comparison of digests is one of
bytes. -/
theorem isCurrent_iff_read {path : List String} {text : String} (ht : Told s path text) :
    isCurrent s path text = true ↔ s.read path = .ok text.toUTF8 := by
  rw [isCurrent_iff]
  constructor
  · rintro ⟨content, hread, hdigest⟩
    rw [hread, ht content hread hdigest]
  · intro hread
    exact ⟨text.toUTF8, hread, rfl⟩

theorem allOrNothing_run {c : Call} (ht : Told s (a.path c.identity) c.text) :
    AllOrNothing a c s (c.run a s) := by
  have hcurrent := isCurrent_iff_read ht
  rcases run_cases a c s with ⟨hrun, hc⟩ | ⟨folder, t, hrun, hc, he, hf, hw, hsteps⟩ | ⟨fault, t, hrun, hc, hsame, hwhy⟩
  · have hread := hcurrent.1 hc
    rw [hrun]
    exact ⟨hread, fun _ _ => rfl, by simp [hread], rfl⟩
  · have hread : s.read (a.path c.identity) ≠ .ok c.text.toUTF8 := by
      intro h
      rw [hcurrent.2 h] at hc
      cases hc
    rw [hrun]
    refine ⟨read_written he hf hw, ?_, iff_of_true rfl hread, hsteps⟩
    intro p hp
    have hne : p ≠ folder ++ [fileName (Digest.ofText c.identity)] := by
      rintro rfl
      exact hp (find_path he c.identity)
    rw [hw p, if_neg hne]
  · rw [hrun]
    refine ⟨hsame, ?_, hwhy⟩
    intro h
    rw [hcurrent.2 h] at hc
    cases hc

theorem AllOrNothing.returns {c : Call} (h : AllOrNothing a c s (c.run a s)) (ht : c.trouble = noTrouble)
    (hfree : ¬a.Obstructed s c.identity) : returned a c.identity s c = some c.text := by
  unfold returned
  cases hr : c.run a s with
  | ok written t => exact if_pos rfl
  | error fault t =>
    rw [hr] at h
    rcases h.2.2 with htrouble | hobstructed
    · exact absurd ht htrouble
    · exact absurd hobstructed hfree

theorem AllOrNothing.fails {c : Call} (h : AllOrNothing a c s (c.run a s)) {step : WriteStep} {fault : Fault}
    (ht : c.trouble step = some fault) (hstale : s.read (a.path c.identity) ≠ .ok c.text.toUTF8) :
    returned a identity s c = none := by
  unfold returned
  cases hr : c.run a s with
  | error fault t => rfl
  | ok written t =>
    rw [hr] at h
    obtain ⟨-, -, hwritten, hsteps⟩ := h
    obtain rfl := hwritten.2 hstale
    cases ht.symm.trans (hsteps step)

theorem read_run {c : Call} (ht : Told s (a.path c.identity) c.text)
    (hid : Digest.ofText identity = Digest.ofText c.identity → c.identity = identity) :
    (left (c.run a s)).read (a.path identity) =
      match returned a identity s c with
      | some text => .ok text.toUTF8
      | none => s.read (a.path identity) := by
  unfold returned
  rcases run_cases a c s with ⟨hrun, hc⟩ | ⟨folder, t, hrun, -, he, hf, hw, -⟩ | ⟨fault, t, hrun, -, hsame, -⟩
  · rw [hrun]
    by_cases hi : c.identity = identity
    · subst hi
      simp only [left, ↓reduceIte, (isCurrent_iff_read ht).1 hc]
    · simp only [left, if_neg hi]
  · rw [hrun]
    by_cases hi : c.identity = identity
    · subst hi
      simp only [left, ↓reduceIte, read_written he hf hw]
    · simp only [left, if_neg hi]
      exact read_elsewhere he hf hw fun h => hi (hid h)
  · rw [hrun]
    exact hsame.read _

theorem Apart.told {calls : List Call} (h : Apart a s calls) {c : Call} (hc : c ∈ calls) :
    Told s (a.path c.identity) c.text := by
  intro content hread hdigest
  exact h.contents _ _ ⟨c, hc, .inr hread⟩ ⟨c, hc, .inl rfl⟩ hdigest

theorem eq_of_returned {c : Call} {text : String} (h : returned a identity s c = some text) :
    text = c.text := by
  unfold returned at h
  split at h
  · split at h
    · exact (Option.some.inj h).symm
    · cases h
  · cases h

theorem Apart.rest {c : Call} {rest : List Call} (h : Apart a s (c :: rest)) :
    Apart a (left (c.run a s)) rest := by
  have hcompared : ∀ x, Compared a (left (c.run a s)) rest x → Compared a s (c :: rest) x := by
    rintro x ⟨d, hd, htext | hread⟩
    · exact ⟨d, List.mem_cons_of_mem c hd, .inl htext⟩
    · have hrun := read_run (h.told List.mem_cons_self) fun hdigest =>
        h.identities c List.mem_cons_self d (List.mem_cons_of_mem c hd) hdigest.symm
      rw [hrun] at hread
      cases hr : returned a d.identity s c with
      | some text =>
        rw [hr] at hread
        obtain rfl := Except.ok.inj hread
        exact ⟨c, List.mem_cons_self, .inl (by rw [eq_of_returned hr])⟩
      | none =>
        rw [hr] at hread
        exact ⟨d, List.mem_cons_of_mem c hd, .inr hread⟩
  constructor
  · intro d hd e he
    exact h.identities d (List.mem_cons_of_mem c hd) e (List.mem_cons_of_mem c he)
  · intro x y hx hy
    exact h.contents x y (hcompared x hx) (hcompared y hy)

theorem Apart.after {before after : List Call} (h : Apart a s (before ++ after)) :
    Apart a (treeAfter a s before) after := by
  induction before generalizing s with
  | nil => exact h
  | cons c before ih => exact ih h.rest

theorem read_treeAfter {calls : List Call} (h : Apart a s calls)
    (hid : ∀ c ∈ calls, Digest.ofText identity = Digest.ofText c.identity → c.identity = identity) :
    (treeAfter a s calls).read (a.path identity) =
      match lastReturned a identity s calls with
      | some text => .ok text.toUTF8
      | none => s.read (a.path identity) := by
  induction calls generalizing s with
  | nil => rfl
  | cons c rest ih =>
    have hfirst := read_run (h.told List.mem_cons_self) (hid c List.mem_cons_self)
    have hrest := ih h.rest fun d hd => hid d (List.mem_cons_of_mem c hd)
    rw [treeAfter, hrest, lastReturned]
    cases lastReturned a identity (left (c.run a s)) rest with
    | some text => rfl
    | none => exact hfirst

/-- Every call of a sequence is all or nothing, and after the sequence each artifact holds the text of
the last call for its identity that returned. -/
theorem calls_all_or_nothing {calls : List Call} (h : Apart a s calls) :
    (∀ before c after, calls = before ++ c :: after →
      AllOrNothing a c (treeAfter a s before) (c.run a (treeAfter a s before))) ∧
    ∀ c ∈ calls, (treeAfter a s calls).read (a.path c.identity) =
      match lastReturned a c.identity s calls with
      | some text => .ok text.toUTF8
      | none => s.read (a.path c.identity) := by
  constructor
  · rintro before c after rfl
    exact allOrNothing_run (h.after.told List.mem_cons_self)
  · intro c hc
    exact read_treeAfter h fun d hd hdigest => (h.identities c hc d hd hdigest).symm

/-- A stale artifact is written, a call that fails at its last step leaves that text, and another identity
has an artifact of its own. -/
theorem calls_all_or_nothing_sample :
    let a : Artifacts := ⟨⟨.one, ["cached"]⟩⟩
    let s := (Files.empty.put ["cached"] .folder).put (a.path "/a") (.file "old".toUTF8)
    let first : Call := ⟨noTrouble, "/a", "x"⟩
    let second : Call := ⟨fun step => if step = .replace then some .isDirectory else none, "/a", "y"⟩
    let third : Call := ⟨noTrouble, "/b", "y"⟩
    Apart a s [first, second, third] ∧
      AllOrNothing a second (treeAfter a s [first]) (second.run a (treeAfter a s [first])) ∧
      (treeAfter a s [first, second, third]).read (a.path "/a") = .ok "x".toUTF8 := by
  intro a s first second third
  have hnext : Files.next [] "cached" = .ok ["cached"] :=
    Files.next_plain (by decide) (by decide) (by decide)
  have he : s.enter [] a.folder.parts = .ok ["cached"] := by
    show s.enter [] ["cached"] = _
    rw [Files.enter, hnext]
    rfl
  have hnames : ∀ i ∈ ["/a", "/b"], ∀ j ∈ ["/a", "/b"], Digest.ofText i = Digest.ofText j → i = j := by
    decide +kernel
  have hdigests : ∀ x ∈ ["old", "x", "y"].map String.toUTF8, ∀ y ∈ ["old", "x", "y"].map String.toUTF8,
      Digest.ofBytes x = Digest.ofBytes y → x = y := by
    decide +kernel
  have hnode : s.node? (a.path "/a") = some (.file "old".toUTF8) := Files.node?_put_self (by simp [Artifacts.path])
  have hreada : s.read (a.path "/a") = .ok "old".toUTF8 := by
    simp only [Files.read, find_path he, bind, Except.bind]
    rw [show ["cached"] ++ [fileName (Digest.ofText "/a")] = a.path "/a" from rfl, hnode]
  have hreadb : s.read (a.path "/b") = .error (.notFound none) := by
    have hne : a.path "/b" ≠ a.path "/a" := by
      intro h
      have hname := (List.cons.inj (List.append_cancel_left h)).1
      exact absurd (hnames _ (by simp) _ (by simp) (fileName_injective hname)) (by decide)
    have hnone : s.node? (a.path "/b") = none := by
      rw [Files.node?_put_of_ne hne]
      rfl
    simp only [Files.read, find_path he, bind, Except.bind]
    rw [show ["cached"] ++ [fileName (Digest.ofText "/b")] = a.path "/b" from rfl, hnone]
  have hcompared : ∀ x, Compared a s [first, second, third] x → x ∈ ["old", "x", "y"].map String.toUTF8 := by
    rintro x ⟨c, hc, htext | hread⟩
    · simp only [List.mem_cons, List.not_mem_nil, or_false] at hc
      rcases hc with rfl | rfl | rfl <;> simp [htext, first, second, third]
    · simp only [List.mem_cons, List.not_mem_nil, or_false] at hc
      rcases hc with rfl | rfl | rfl
      · obtain rfl := Except.ok.inj (hreada.symm.trans hread)
        simp
      · obtain rfl := Except.ok.inj (hreada.symm.trans hread)
        simp
      · cases hreadb.symm.trans hread
  have hapart : Apart a s [first, second, third] := by
    constructor
    · intro c hc d hd
      have hmem : ∀ c ∈ [first, second, third], c.identity ∈ ["/a", "/b"] := by
        simp [first, second, third]
      exact hnames _ (hmem c hc) _ (hmem d hd)
    · intro x y hx hy
      exact hdigests x (hcompared x hx) y (hcompared y hy)
  obtain ⟨hcalls, hlast⟩ := calls_all_or_nothing hapart
  have hone := hcalls [] first [second, third] rfl
  have htwo := hcalls [first] second [third] rfl
  have hthree := hlast first (by simp)
  refine ⟨hapart, htwo, hthree.trans ?_⟩
  have hfree : ¬Obstructed a s "/a" := by
    rintro (⟨place, hfind, hfolder⟩ | hno)
    · obtain rfl := Except.ok.inj ((find_path he "/a").symm.trans hfind)
      have := hnode.symm.trans (Files.isFolder_eq_true.1 hfolder)
      cases this
    · exact hno _ he
  have hwritten : returned a "/a" s first = some "x" := AllOrNothing.returns hone rfl hfree
  have hread : (treeAfter a s [first]).read (a.path "/a") = .ok "x".toUTF8 := by
    have h := read_run (hapart.told List.mem_cons_self) fun _ => rfl
    rwa [hwritten] at h
  have hfailed : returned a "/a" (treeAfter a s [first]) second = none := by
    have htrouble : second.trouble .replace = some .isDirectory := rfl
    refine htwo.fails htrouble fun h => ?_
    have htext := Except.ok.inj (hread.symm.trans h)
    exact absurd htext (by decide +kernel)
  have hother (t : Files) : returned a "/a" t third = none := by
    unfold returned
    cases third.run a t <;> rfl
  have hlastText : lastReturned a "/a" s [first, second, third] = some "x" := by
    change (((none <|> returned a "/a" (treeAfter a s [first, second]) third) <|>
      returned a "/a" (treeAfter a s [first]) second) <|> returned a "/a" s first) = some "x"
    rw [hother, hfailed, hwritten]
    rfl
  rw [show first.identity = "/a" from rfl, hlastText]

end Stencil.Artifacts
