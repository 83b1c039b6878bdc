import Stencil.Artifacts
import Stencil.Proofs.Artifacts.Calls
import Stencil.Proofs.Files.Path
import Stencil.Proofs.Run
import Stencil.Proofs.Text.Class
import Stencil.Template.Root
/-!
# Where templates are

A name without slashes leads to the place below the directory of templates that its segments spell, and to
no other name's place. A segment that begins with a slash leads away from the directory, whichever it is.
-/

namespace Stencil.TemplateRoot

open Stencil.Path

variable {r : TemplateRoot} {name segment extension : String} {parts : List String}

theorem mem_of_mem_trim {s : List Char} {c : Char} (h : c ∈ Text.trim s) : c ∈ s := by
  obtain ⟨a, b, -, -, hs⟩ := Text.trim_split s
  rw [hs]
  exact List.mem_append_right _ (List.mem_append_left _ h)

/-- A segment of a name: not empty, without points, and made of characters of the name. -/
structure Segment (name segment : String) : Prop where
  nonempty : segment ≠ ""
  unpointed : '.' ∉ segment.toList
  within : ∀ c ∈ segment.toList, c ∈ name.toList

theorem segment_of_mem (h : segment ∈ segments name) : Segment name segment := by
  rw [segments, Text.splitOn_char (Nat.le_refl _), List.mem_filter, List.mem_map] at h
  obtain ⟨⟨piece, hpiece, rfl⟩, hkept⟩ := h
  have hchar {c : Char} (hc : c ∈ (String.ofList piece).toList) : c ∈ Text.trim name.toList ∧ c ≠ '.' := by
    rw [String.toList_ofList] at hc
    exact Text.exists_piece_iff.1 ⟨piece, hpiece, hc⟩
  exact ⟨of_decide_eq_true hkept, fun hc => (hchar hc).2 rfl, fun c hc => mem_of_mem_trim (hchar hc).1⟩

/-- A segment that begins with a slash. -/
def Rooted (segment : String) : Prop := segment.toList.head? = some '/'

instance (segment : String) : Decidable (Rooted segment) :=
  inferInstanceAs (Decidable (_ = _))

theorem rooted_iff : Rooted segment ↔ (ofText segment).root ≠ .relative := by
  unfold Rooted ofText rootOf
  cases segment.toList with
  | nil => simp
  | cons c s =>
    by_cases hc : c = '/'
    · subst hc
      cases hs : (s.takeWhile (· == '/')).length with
      | zero => simp [hs]
      | succ n => cases n <;> simp [hs]
    · simp [hc]

def components (name : String) : List String := (segments name).flatMap fun s => (ofText s).parts

theorem component_of_mem_components {part : String} (h : part ∈ components name) :
    (Component part ∧ '.' ∉ part.toList) ∧ ∀ c ∈ part.toList, c ∈ name.toList := by
  obtain ⟨segment, hsegment, hpart⟩ := List.mem_flatMap.1 h
  have hs := segment_of_mem hsegment
  have hchar {c : Char} (hc : c ∈ part.toList) : c ∈ segment.toList := mem_of_mem_component hpart hc
  exact ⟨⟨component_of_mem hpart, fun hc => hs.unpointed (hchar hc)⟩, fun c hc => hs.within c (hchar hc)⟩

theorem components_ne_nil (hne : segments name ≠ []) (h : ∀ s ∈ segments name, ¬Rooted s) :
    components name ≠ [] := by
  obtain ⟨segment, rest, hsegments⟩ := List.exists_cons_of_ne_nil hne
  have hmem : segment ∈ segments name := by rw [hsegments]; exact List.mem_cons_self
  have hs := segment_of_mem hmem
  have hlist : segment.toList ≠ [] := fun hnil => hs.nonempty (String.toList_eq_nil_iff.1 hnil)
  obtain ⟨c, t, hc⟩ := List.exists_cons_of_ne_nil hlist
  have hin : c ∈ segment.toList := by rw [hc]; exact List.mem_cons_self
  have hslash : c ≠ '/' := by
    rintro rfl
    exact h segment hmem (by rw [Rooted, hc]; rfl)
  have hpoint : c ≠ '.' := fun hpoint => hs.unpointed (hpoint ▸ hin)
  have hparts := partsOf_ne_nil hin hslash hpoint
  obtain ⟨part, hpart⟩ := List.exists_mem_of_ne_nil _ hparts
  exact List.ne_nil_of_mem (List.mem_flatMap.2 ⟨segment, hmem, hpart⟩)

def fileParts (parts : List String) (extension : String) : List String :=
  parts.dropLast ++ (parts.getLast?.map (· ++ extension)).toList

theorem fileParts_concat (front : List String) (last extension : String) :
    fileParts (front ++ [last]) extension = front ++ [last ++ extension] := by
  simp [fileParts]

theorem fileParts_injective {parts' : List String} (h : fileParts parts extension = fileParts parts' extension) :
    parts = parts' := by
  rcases List.eq_nil_or_concat parts with rfl | ⟨front, last, rfl⟩ <;>
    rcases List.eq_nil_or_concat parts' with rfl | ⟨front', last', rfl⟩
  · rfl
  · simp [fileParts] at h
  · simp [fileParts] at h
  · simp only [List.concat_eq_append, fileParts_concat] at h ⊢
    obtain ⟨rfl, hlast⟩ := List.append_inj' h rfl
    rw [(String.append_left_inj extension).1 (List.singleton_inj.1 hlast)]

theorem of_mem_fileParts {part : String} (h : part ∈ fileParts parts extension) :
    part ∈ parts ∨ ∃ last ∈ parts, part = last ++ extension := by
  rcases List.eq_nil_or_concat parts with rfl | ⟨front, last, rfl⟩
  · cases h
  · rw [List.concat_eq_append, fileParts_concat, List.mem_append, List.mem_singleton] at h
    rcases h with h | rfl
    · exact .inl (by simp [h])
    · exact .inr ⟨last, by simp, rfl⟩

theorem unended_fileParts (hext : '\x00' ∉ extension.toList) (h : ∀ part ∈ parts, '\x00' ∉ part.toList)
    {part : String} (hmem : part ∈ fileParts parts extension) : '\x00' ∉ part.toList := by
  obtain hmem | ⟨last, hlast, rfl⟩ := of_mem_fileParts hmem
  · exact h part hmem
  · rw [String.toList_append, List.mem_append, not_or]
    exact ⟨h last hlast, hext⟩

theorem isComponent_of_component (h : Component segment) : isComponent segment = true := by
  have hend : segment.endsWith "/" = false := by
    rw [String.endsWith_eq_endsWith_toSlice, String.Slice.endsWith_string_eq_false_iff, String.copy_toSlice]
    exact fun hsuffix => h.unslashed (hsuffix.subset (by simp))
  simp [isComponent, h.ofText, hend]

theorem component_of_mem_fileParts (hext : '/' ∉ extension.toList)
    (h : ∀ part ∈ parts, Component part ∧ '.' ∉ part.toList) {part : String}
    (hmem : part ∈ fileParts parts extension) : Component part ∧ part ≠ ".." := by
  obtain hmem | ⟨last, hlast, rfl⟩ := of_mem_fileParts hmem
  · obtain ⟨hpart, hpoint⟩ := h part hmem
    refine ⟨hpart, ?_⟩
    rintro rfl
    exact hpoint (by simp)
  · obtain ⟨hlast, hpoint⟩ := h last hlast
    exact hlast.append hpoint hext

theorem extend_append {p : Path} (hne : parts ≠ []) (hext : '/' ∉ extension.toList)
    (h : ∀ part ∈ parts, Component part ∧ '.' ∉ part.toList) :
    extend { p with parts := p.parts ++ parts } extension =
      .ok { p with parts := p.parts ++ fileParts parts extension } := by
  obtain ⟨front, last, rfl⟩ := (List.eq_nil_or_concat parts).resolve_left hne
  rw [List.concat_eq_append] at h ⊢
  obtain ⟨hlast, hpoint⟩ := h last (by simp)
  obtain ⟨hfile, -⟩ := hlast.append hpoint hext
  have hname : ({ p with parts := p.parts ++ (front ++ [last]) } : Path).name? = some last := by simp [name?]
  rw [extend, hname]
  dsimp only
  rw [if_pos (isComponent_of_component hfile), hfile.partsOf, fileParts_concat, ← List.append_assoc,
    List.dropLast_concat, List.append_assoc]

theorem not_mem_make {c : Char} (hc : c ≠ '.') (directory : Path) (h : c ∉ extension.toList) :
    c ∉ (make directory extension).extension.toList := by
  rw [make]
  dsimp only
  unfold pointed
  split
  · exact h
  · simpa [hc] using h

theorem locate_relative (hext : '/' ∉ r.extension.toList) (hne : segments name ≠ [])
    (h : ∀ s ∈ segments name, ¬Rooted s) :
    r.locate name = placeOf { r.directory with
      parts := r.directory.parts ++ fileParts (components name) r.extension } := by
  have hspelled : r.spelled (segments name) =
      { r.directory with parts := r.directory.parts ++ components name } := by
    have hroots : ∀ q ∈ (segments name).map ofText, q.root = .relative := by
      intro q hq
      obtain ⟨s, hs, rfl⟩ := List.mem_map.1 hq
      exact not_not.1 fun hroot => h s hs (rooted_iff.2 hroot)
    rw [spelled, foldl_join_relative hroots, List.flatMap_map]
    rfl
  have hempty : ¬(segments name).isEmpty = true := by simpa using hne
  rw [locate]
  dsimp only
  rw [if_neg hempty, hspelled, extend_append (components_ne_nil hne h) hext
    fun _ hpart => (component_of_mem_components hpart).1]
  rfl

theorem segments_of_locate {place : List String} (h : r.locate name = .ok place) : segments name ≠ [] := by
  intro hnil
  rw [locate, hnil] at h
  cases h

theorem placeOf_eq {p : Path} (h : ∀ part ∈ p.parts, '\x00' ∉ part.toList) : placeOf p = .ok p.place := by
  refine if_neg ?_
  rw [List.any_eq_true]
  rintro ⟨part, hpart, hnul⟩
  rw [String.contains_char_eq] at hnul
  exact h part hpart (by simpa using hnul)

theorem place_of_placeOf {p : Path} {place : List String} (h : placeOf p = .ok place) : place = p.place := by
  unfold placeOf at h
  split at h
  · cases h
  · exact (Except.ok.inj h).symm

theorem place_fileParts (hext : '/' ∉ r.extension.toList) (name : String) :
    ({ r.directory with parts := r.directory.parts ++ fileParts (components name) r.extension } : Path).place =
      r.directory.place ++ fileParts (components name) r.extension := by
  refine place_append (fun hmem => ?_) r.directory
  exact (component_of_mem_fileParts hext (fun _ hpart => (component_of_mem_components hpart).1) hmem).2 rfl

def Below (folder place : List String) : Prop := ∃ rest, rest ≠ [] ∧ place = folder ++ rest

/-- A name leads below the directory of templates, whatever points and white space it has, when no segment
of it begins with a slash. Otherwise the directory has no part in where it leads. -/
theorem locate_below {directory : Path} {place : List String} (hext : '/' ∉ extension.toList)
    (h : (make directory extension).locate name = .ok place) :
    ((∀ s ∈ segments name, ¬Rooted s) → Below directory.place place) ∧
    ((∃ s ∈ segments name, Rooted s) → ∀ other, (make other extension).locate name = .ok place) := by
  have hpointed := not_mem_make (by decide) directory hext
  have hne := segments_of_locate h
  constructor
  · intro hrel
    rw [locate_relative hpointed hne hrel] at h
    obtain rfl := place_of_placeOf h
    obtain ⟨front, last, hparts⟩ := (List.eq_nil_or_concat (components name)).resolve_left
      (components_ne_nil hne hrel)
    refine ⟨_, ?_, place_fileParts hpointed name⟩
    rw [hparts, List.concat_eq_append, fileParts_concat]
    simp
  · rintro ⟨s, hs, hroot⟩ other
    have hspelled : (make other extension).spelled (segments name) =
        (make directory extension).spelled (segments name) :=
      foldl_join_rooted (List.mem_map_of_mem hs) (rooted_iff.1 hroot) other directory
    rw [← h, locate, locate, hspelled]
    rfl

theorem locate_below_sample :
    let directory := ofText "/zz/../tpl"
    let place := ["tpl", "mail", "sub", "note.tmpl"]
    (make directory ".tmpl").locate " mail..sub/note " = .ok place ∧ Below directory.place place := by
  intro directory place
  have hsegments : segments " mail..sub/note " = ["mail", "sub/note"] := by decide +kernel
  have hcomponents : components " mail..sub/note " = ["mail", "sub", "note"] := by decide +kernel
  have hrel : ∀ s ∈ segments " mail..sub/note ", ¬Rooted s := by
    rw [hsegments]
    decide +kernel
  have hextension : (make directory ".tmpl").extension = ".tmpl" := by decide +kernel
  have hlocate : (make directory ".tmpl").locate " mail..sub/note " = .ok place := by
    rw [locate_relative (by decide +kernel) (by simp [hsegments]) hrel, hcomponents, hextension]
    exact placeOf_eq (p := ⟨.one, ["zz", "..", "tpl", "mail", "sub", "note.tmpl"]⟩) (by decide +kernel)
  exact ⟨hlocate, (locate_below (by decide +kernel) hlocate).1 hrel⟩

/-- A name with a slash in front leads out of the directory. -/
theorem locate_beside :
    let directory := ofText "/zz/tpl"
    (make directory ".tmpl").locate "/yy/secret" = .ok ["yy", "secret.tmpl"] ∧
      ¬Below directory.place ["yy", "secret.tmpl"] := by
  intro directory
  have hsegments : segments "/yy/secret" = ["/yy/secret"] := by decide +kernel
  have hspelled : (make directory ".tmpl").spelled ["/yy/secret"] = ⟨.one, ["yy"] ++ ["secret"]⟩ := by
    decide +kernel
  have hextension : (make directory ".tmpl").extension = ".tmpl" := by decide +kernel
  have hpart : ∀ part ∈ ["secret"], Component part ∧ '.' ∉ part.toList := by
    rw [List.forall_mem_singleton]
    exact ⟨⟨by decide, by decide, by decide⟩, by decide⟩
  have hextend : extend ⟨.one, ["yy"] ++ ["secret"]⟩ ".tmpl" = .ok ⟨.one, ["yy", "secret.tmpl"]⟩ :=
    extend_append (p := ⟨.one, ["yy"]⟩) (List.cons_ne_nil _ _) (by decide) hpart
  refine ⟨?_, ?_⟩
  · rw [locate, hsegments, hspelled, hextension, hextend]
    exact placeOf_eq (p := ⟨.one, ["yy", "secret.tmpl"]⟩) (by decide +kernel)
  · rintro ⟨rest, -, h⟩
    have hplace : directory.place = ["zz", "tpl"] := by decide +kernel
    rw [hplace] at h
    exact absurd (List.cons.inj h).1 (by decide)

/-- A text that has no slash and can stand in a path. -/
structure Plain (s : String) : Prop where
  unslashed : '/' ∉ s.toList
  unended : '\x00' ∉ s.toList

theorem not_rooted_of_plain (h : Plain name) : ∀ s ∈ segments name, ¬Rooted s := by
  intro s hs hroot
  obtain ⟨t, ht⟩ := List.head?_eq_some_iff.1 hroot
  exact h.unslashed ((segment_of_mem hs).within '/' (by rw [ht]; exact List.mem_cons_self))

theorem components_of_plain (h : Plain name) : components name = segments name := by
  have hparts : ∀ s ∈ segments name, (ofText s).parts = [s] := by
    intro s hs
    have hseg := segment_of_mem hs
    have hcomponent : Component s := by
      refine ⟨hseg.nonempty, ?_, fun hc => h.unslashed (hseg.within '/' hc)⟩
      rintro rfl
      exact hseg.unpointed (by simp)
    rw [hcomponent.ofText]
  rw [components, List.flatMap_congr hparts]
  simp

theorem place_of_locate {directory : Path} {place : List String} (hext : Plain extension) (hname : Plain name)
    (h : (make directory extension).locate name = .ok place) :
    place = directory.place ++ fileParts (segments name) (make directory extension).extension := by
  have hpointed := not_mem_make (by decide) directory hext.unslashed
  rw [locate_relative hpointed (segments_of_locate h) (not_rooted_of_plain hname)] at h
  rw [place_of_placeOf h, place_fileParts hpointed, components_of_plain hname]
  rfl

theorem locate_plain {directory : Path} (hdir : ∀ part ∈ directory.parts, '\x00' ∉ part.toList)
    (hext : Plain extension) (hname : Plain name) (hne : segments name ≠ []) :
    (make directory extension).locate name =
      .ok (directory.place ++ fileParts (segments name) (make directory extension).extension) := by
  have hpointed := not_mem_make (by decide) directory hext.unslashed
  rw [locate_relative hpointed hne (not_rooted_of_plain hname), placeOf_eq, place_fileParts hpointed,
    components_of_plain hname]
  · rfl
  · intro part hpart
    rcases List.mem_append.1 hpart with hpart | hpart
    · exact hdir part hpart
    · exact unended_fileParts (not_mem_make (by decide) directory hext.unended) (fun part hpart hc =>
        hname.unended ((component_of_mem_components hpart).2 _ hc)) hpart

theorem artifact_path_iff {a : Artifacts} {p₁ p₂ : List String} (h₁ : ∀ part ∈ p₁, Component part)
    (h₂ : ∀ part ∈ p₂, Component part)
    (hdigest : Digest.ofText (ofPlace p₁).text = Digest.ofText (ofPlace p₂).text →
      (ofPlace p₁).text = (ofPlace p₂).text) :
    a.path (ofPlace p₁).text = a.path (ofPlace p₂).text ↔ p₁ = p₂ := by
  constructor
  · intro h
    have hname := List.singleton_inj.1 (List.append_cancel_left h)
    exact text_injective h₁ h₂ (hdigest (Artifacts.fileName_injective hname))
  · rintro rfl
    rfl

theorem component_of_locate {working directory : String} {place : List String} (hext : Plain extension)
    (hname : Plain name)
    (h : (make ((ofText working).join (ofText directory)) extension).locate name = .ok place) :
    ∀ part ∈ place, Component part := by
  rw [place_of_locate hext hname h]
  intro part hpart
  rcases List.mem_append.1 hpart with hpart | hpart
  · exact clean_join (clean_ofText working) (clean_ofText directory) part (mem_of_mem_place hpart)
  · rw [← components_of_plain hname] at hpart
    exact (component_of_mem_fileParts (not_mem_make (by decide) _ hext.unslashed)
      (fun _ hpart => (component_of_mem_components hpart).1) hpart).1

/-- Below any directory, two plain names lead to one place just when they have the same segments. The place
has the segments for its last components, with the extension after the last one. A plain name leads nowhere
just when it has no segments, and two names share an artifact just when their segments are the same. -/
theorem locate_segments (working directory : String) (hext : Plain extension) :
    let r := make ((ofText working).join (ofText directory)) extension
    (∀ name place, Plain name → r.locate name = .ok place →
      place = r.directory.place ++ fileParts (segments name) r.extension) ∧
    (∀ n₁ n₂ p₁ p₂, Plain n₁ → Plain n₂ → r.locate n₁ = .ok p₁ → r.locate n₂ = .ok p₂ →
      (p₁ = p₂ ↔ segments n₁ = segments n₂) ∧
      ∀ a : Artifacts, (Digest.ofText (ofPlace p₁).text = Digest.ofText (ofPlace p₂).text →
          (ofPlace p₁).text = (ofPlace p₂).text) →
        (a.path (ofPlace p₁).text = a.path (ofPlace p₂).text ↔ segments n₁ = segments n₂)) ∧
    ((∀ part ∈ r.directory.parts, '\x00' ∉ part.toList) → ∀ name, Plain name →
      ((∃ cause, r.locate name = .error (.badValue cause)) ↔ segments name = []) ∧
      ((∃ place, r.locate name = .ok place) ↔ segments name ≠ [])) := by
  intro r
  refine ⟨fun name place hname h => place_of_locate hext hname h, ?_, ?_⟩
  · intro n₁ n₂ p₁ p₂ hn₁ hn₂ h₁ h₂
    have hplaces : p₁ = p₂ ↔ segments n₁ = segments n₂ := by
      rw [place_of_locate hext hn₁ h₁, place_of_locate hext hn₂ h₂]
      exact ⟨fun h => fileParts_injective (List.append_cancel_left h), fun h => by rw [h]⟩
    refine ⟨hplaces, fun a hdigest => ?_⟩
    rw [← hplaces]
    exact artifact_path_iff (component_of_locate hext hn₁ h₁) (component_of_locate hext hn₂ h₂) hdigest
  · intro hdir name hname
    by_cases hne : segments name = []
    · have hlocate : r.locate name = .error (.badValue (.templateName (Text.quote name))) := by
        rw [locate, hne]
        rfl
      simp [hlocate, hne]
    · have hlocate : ∃ place, r.locate name = .ok place := ⟨_, locate_plain hdir hext hname hne⟩
      obtain ⟨place, hlocate⟩ := hlocate
      simp [hlocate, hne]

theorem locate_segments_sample :
    let r := make ((ofText "/srv").join (ofText "../tpl//x")) "html"
    let p₁ := ["tpl", "x", "a", "b.html"]
    let p₂ := ["tpl", "x", "a", "c.html"]
    r.locate " a..b " = .ok p₁ ∧ r.locate "a.c" = .ok p₂ ∧ (p₁ = p₂ ↔ segments " a..b " = segments "a.c") ∧
      (∀ a : Artifacts, a.path (ofPlace p₁).text = a.path (ofPlace p₂).text ↔
        segments " a..b " = segments "a.c") ∧
      ∃ cause, r.locate ".." = .error (.badValue cause) := by
  intro r p₁ p₂
  have hext : Plain "html" := ⟨by decide, by decide⟩
  have hdir : ∀ part ∈ r.directory.parts, '\x00' ∉ part.toList := by decide +kernel
  have hn₁ : Plain " a..b " := ⟨by decide, by decide⟩
  have hn₂ : Plain "a.c" := ⟨by decide, by decide⟩
  have hfound {name : String} (last : String) (hname : Plain name) (hs : segments name = ["a", last]) :
      r.locate name = .ok ["tpl", "x", "a", last ++ ".html"] := by
    have hdirectory : r.directory.place = ["tpl", "x"] := by decide +kernel
    have hextension : r.extension = ".html" := by decide +kernel
    have hlocate : r.locate name = .ok (r.directory.place ++ fileParts (segments name) r.extension) :=
      locate_plain hdir hext hname (by simp [hs])
    rw [hlocate, hs, hdirectory, hextension]
    rfl
  have h₁ : r.locate " a..b " = .ok p₁ := hfound "b" hn₁ (by decide +kernel)
  have h₂ : r.locate "a.c" = .ok p₂ := hfound "c" hn₂ (by decide +kernel)
  obtain ⟨-, hpair, hraise⟩ := locate_segments "/srv" "../tpl//x" hext
  obtain ⟨hplaces, hshared⟩ := hpair _ _ p₁ p₂ hn₁ hn₂ h₁ h₂
  have hdigest : Digest.ofText (ofPlace p₁).text ≠ Digest.ofText (ofPlace p₂).text := by decide +kernel
  refine ⟨h₁, h₂, hplaces, fun a => hshared a fun h => absurd h hdigest, ?_⟩
  exact (hraise hdir ".." ⟨by decide, by decide⟩).1.2 (by decide +kernel)

end Stencil.TemplateRoot
