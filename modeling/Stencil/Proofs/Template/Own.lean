import Stencil.Proofs.Template.Earliest
/-!
# Lines of the template itself

An expansion is written from left to right, a character or an include at a time. So each offset of it belongs
to the template or to a text that an include has brought in, and the lines of the two differ by what the
includes before it take up and bring in. An include that cannot be carried out is reported with its line in
the template, any other tag with its line in the expansion.
-/

namespace Stencil.Template

open Text Tag

/-- An include that has been carried out: the tag as it is written, and the text that it has brought in. -/
structure Carried where
  tag : List Char
  text : List Char

variable (fetch : Option (String → Except Fault (List Char))) (text : List Char)

/-- An include begins at an offset and ends at another, and its name stands for a result. -/
structure Gives (q e : Nat) (result : Except Fault (List Char)) : Prop where
  here : includeMark <+: text.drop q
  given : ∃ g f, argumentAt? text (q + includeMark.length) = some (g, e) ∧ fetch = some f ∧
    f (includeName g) = result

/-- An include begins at an offset and cannot be carried out, whatever its name stands for. -/
inductive Unfit (q : Nat) : TagFault → Prop where
  | endless : includeMark <+: text.drop q → argumentAt? text (q + includeMark.length) = none →
      Unfit q .endlessInclude
  | unresolved {g : List Char} {e : Nat} : includeMark <+: text.drop q →
      argumentAt? text (q + includeMark.length) = some (g, e) → fetch = none →
      Unfit q (.noResolver (includeName g))

/-- The expansion of a text up to an offset: the includes that have been carried out before it, and what has
been written by then. -/
inductive UpTo : Nat → List Carried → List Char → Prop where
  | start : UpTo 0 [] []
  | char {q : Nat} {done : List Carried} {y rest : List Char} {c : Char} : UpTo q done y →
      text.drop q = c :: rest → ¬includeMark <+: text.drop q → UpTo (q + 1) done (y ++ [c])
  | carried {q e : Nat} {done : List Carried} {y x : List Char} : UpTo q done y →
      Gives fetch text q e (.ok x) → UpTo e (done ++ [⟨(text.take e).drop q, x⟩]) (y ++ x)

variable {fetch text} {template s y g x : List Char} {q e : Nat} {done : List Carried} {fault : Fault}
  {result : Except Fault (List Char)}

/-- The line feeds of includes as they are written. -/
def takenUp (done : List Carried) : Nat := lineFeeds (done.flatMap Carried.tag)

/-- The line feeds of the texts that includes have brought in. -/
def broughtIn (done : List Carried) : Nat := lineFeeds (done.flatMap Carried.text)

theorem cut?_at_mark (h : includeMark <+: s) : cut? includeMark s = some ([], s.drop includeMark.length) := by
  obtain ⟨after, rfl⟩ := h
  rw [cut?_here includeMark_ne_nil, List.drop_left]

theorem cut?_off_mark {c : Char} (h : ¬includeMark <+: c :: s) :
    cut? includeMark (c :: s) = (cut? includeMark s).map fun (before, after) => (c :: before, after) := by
  rw [cut?]
  cases ha : after? includeMark (c :: s) with
  | none => rfl
  | some after => exact absurd ⟨after, (after?_eq_some_iff.1 ha).symm⟩ h

theorem argument?_of_argumentAt? {start : Nat} (h : argumentAt? text start = some (g, e)) :
    argument? (text.drop start) = some (g, text.drop e) ∧ start < e := by
  obtain ⟨⟨g', rest⟩, ha, heq⟩ := Option.map_eq_some_iff.1 h
  obtain ⟨rfl, rfl⟩ := Prod.mk.inj heq
  have hsuffix := (suffix_of_argument? ha).trans (List.drop_suffix start text)
  have hlt := length_of_argument? ha
  rw [List.length_drop] at hlt
  rw [← List.suffix_iff_eq_drop.1 hsuffix]
  exact ⟨ha, by omega⟩

theorem expandFrom_char {c : Char} (h : ¬includeMark <+: c :: s) :
    expandFrom fetch template (c :: s) = (c :: ·) <$> expandFrom fetch template s := by
  have hcons := cut?_off_mark h
  cases hc : cut? includeMark s with
  | none =>
    rw [hc] at hcons
    rw [expandFrom_plain hcons, expandFrom_plain hc]
    rfl
  | some pair =>
    obtain ⟨before, after⟩ := pair
    rw [hc] at hcons
    cases ha : argument? after with
    | none =>
      rw [expandFrom_endless hcons ha, expandFrom_endless hc ha]
      rfl
    | some pair =>
      obtain ⟨g, rest⟩ := pair
      cases fetch with
      | none =>
        rw [expandFrom_unresolved hcons ha, expandFrom_unresolved hc ha]
        rfl
      | some f =>
        rw [expandFrom_include hcons ha, expandFrom_include hc ha]
        cases f (includeName g) with
        | error fault => rfl
        | ok inner => cases expandFrom (some f) template rest <;> rfl

/-- An include that is carried out writes what its name stands for, and one that fails ends the expansion. -/
theorem Gives.expansion (h : Gives fetch text q e result) :
    expandFrom fetch template (text.drop q) =
      result >>= fun x => (x ++ ·) <$> expandFrom fetch template (text.drop e) := by
  obtain ⟨g, f, ha, rfl, hf⟩ := h.given
  obtain ⟨harg, -⟩ := argument?_of_argumentAt? ha
  rw [← List.drop_drop] at harg
  rw [expandFrom_include (cut?_at_mark h.here) harg, hf]
  rfl

theorem Gives.lt (h : Gives fetch text q e result) : q < e := by
  obtain ⟨g, f, ha, -, -⟩ := h.given
  obtain ⟨-, hlt⟩ := argument?_of_argumentAt? ha
  omega

theorem lineOf_offset (text : List Char) (q : Nat) : lineOf text q = lineFeeds (text.take q) + 1 := by
  have hpos : ¬((q : Int) < 0) := by omega
  rw [lineOf, if_neg hpos, Int.toNat_natCast]

theorem lineAt_mark_drop (h : includeMark <+: text.drop q) :
    lineAt text (includeMark ++ (text.drop q).drop includeMark.length) = lineOf text q := by
  obtain ⟨after, hafter⟩ := h
  have hline : lineAt text (text.drop q) = Sight.line text ⟨.text [], 0 + q⟩ := lineAt_drop [] text q (.text [])
  rw [← hafter, List.drop_left, hafter, hline, Sight.line, lineOf_offset, Nat.zero_add]

theorem Unfit.expansion {cause : TagFault} (h : Unfit fetch text q cause) :
    expandFrom fetch text (text.drop q) = .error (.tag cause (lineOf text q)) := by
  cases h with
  | endless here ha =>
    have harg := Option.map_eq_none_iff.1 ha
    rw [← List.drop_drop] at harg
    rw [expandFrom_endless (cut?_at_mark here) harg, lineAt_mark_drop here]
    rfl
  | unresolved here ha hf =>
    subst hf
    obtain ⟨harg, -⟩ := argument?_of_argumentAt? ha
    rw [← List.drop_drop] at harg
    rw [expandFrom_unresolved (cut?_at_mark here) harg, lineAt_mark_drop here]
    rfl

theorem UpTo.expansion (h : UpTo fetch text q done y) :
    expandFrom fetch template text = (y ++ ·) <$> expandFrom fetch template (text.drop q) := by
  induction h with
  | start => exact (id_map _).symm
  | @char q done y rest c _ hc hno ih =>
    have hrest : text.drop (q + 1) = rest := by rw [← List.tail_drop, hc, List.tail_cons]
    rw [ih, hrest, hc, expandFrom_char (hc ▸ hno), Functor.map_map]
    simp
  | carried _ hgives ih =>
    rw [ih, hgives.expansion]
    change _ <$> _ <$> _ = _
    rw [Functor.map_map]
    simp

theorem UpTo.feeds (h : UpTo fetch text q done y) :
    lineFeeds y + takenUp done = lineFeeds (text.take q) + broughtIn done := by
  induction h with
  | start => rfl
  | @char q done y rest c _ hc _ ih =>
    have htake : text.take (q + 1) = text.take q ++ [c] := by
      rw [List.take_add, hc]
      rfl
    rw [htake]
    simp only [lineFeeds, List.count_append] at ih ⊢
    omega
  | @carried q e done y x _ hgives ih =>
    have htake : text.take e = text.take q ++ (text.take e).drop q := by
      have := (List.take_append_drop q (text.take e)).symm
      rwa [List.take_take, Nat.min_eq_left (Nat.le_of_lt hgives.lt)] at this
    generalize (text.take e).drop q = tag at htake ⊢
    rw [htake]
    simp only [takenUp, broughtIn, List.flatMap_append, List.flatMap_singleton, lineFeeds,
      List.count_append] at ih ⊢
    omega

variable (fetch text) in
/-- An offset of the expansion is that of a character of the text, which stands where no include begins. -/
structure Own (p q : Nat) (done : List Carried) : Prop where
  plain : ¬includeMark <+: text.drop q
  reached : ∃ y, UpTo fetch text q done y ∧ y.length = p

variable (fetch text) in
def Brought (p : Nat) : Prop :=
  ∃ q e done y x, UpTo fetch text q done y ∧ Gives fetch text q e (.ok x) ∧ y.length ≤ p ∧
    p < y.length + x.length

variable (fetch text) in
/-- The expansion ends at an offset with a result: with all that has been written, or with the fault of an
include that begins there. -/
inductive Ends (q : Nat) (y : List Char) : Except Fault (List Char) → Prop where
  | all : Ends q y (.ok y)
  | unfit {cause : TagFault} : Unfit fetch text q cause → Ends q y (.error (.tag cause (lineOf text q)))
  | broken {e : Nat} {fault : Fault} : Gives fetch text q e (.error fault) → Ends q y (.error fault)

theorem UpTo.next (h : UpTo fetch text q done y) :
    (∃ result, expandFrom fetch text text = result ∧ Ends fetch text q y result) ∨
    q < text.length ∧
      ((¬includeMark <+: text.drop q ∧ ∃ c, UpTo fetch text (q + 1) done (y ++ [c])) ∨
        ∃ e x, Gives fetch text q e (.ok x) ∧
          UpTo fetch text e (done ++ [⟨(text.take e).drop q, x⟩]) (y ++ x)) := by
  have hwhole : expandFrom fetch text text = (y ++ ·) <$> expandFrom fetch text (text.drop q) := h.expansion
  by_cases here : includeMark <+: text.drop q
  · cases ha : argumentAt? text (q + includeMark.length) with
    | none =>
      have hunfit : Unfit fetch text q .endlessInclude := .endless here ha
      exact .inl ⟨_, hwhole.trans (by rw [hunfit.expansion]; rfl), .unfit hunfit⟩
    | some pair =>
      obtain ⟨g, e⟩ := pair
      cases hf : fetch with
      | none =>
        subst hf
        have hunfit : Unfit none text q (.noResolver (includeName g)) := .unresolved here ha rfl
        exact .inl ⟨_, hwhole.trans (by rw [hunfit.expansion]; rfl), .unfit hunfit⟩
      | some f =>
        subst hf
        cases hx : f (includeName g) with
        | error fault =>
          have hgives : Gives (some f) text q e (.error fault) := ⟨here, g, f, ha, rfl, hx⟩
          exact .inl ⟨_, hwhole.trans (by rw [hgives.expansion]; rfl), .broken hgives⟩
        | ok x =>
          have hgives : Gives (some f) text q e (.ok x) := ⟨here, g, f, ha, rfl, hx⟩
          have hlength := here.length_le
          rw [List.length_drop] at hlength
          have hpos : 0 < includeMark.length := List.length_pos_iff.2 includeMark_ne_nil
          exact .inr ⟨by omega, .inr ⟨e, x, hgives, .carried h hgives⟩⟩
  · cases hs : text.drop q with
    | nil =>
      refine .inl ⟨.ok y, ?_, .all⟩
      rw [hwhole, hs, expandFrom_plain rfl]
      exact congrArg Except.ok (List.append_nil y)
    | cons c rest =>
      have hlength := congrArg List.length hs
      rw [List.length_drop, List.length_cons] at hlength
      exact .inr ⟨by omega, .inl ⟨hs ▸ here, c, .char h hs here⟩⟩

theorem UpTo.origin {p : Nat} (h : UpTo fetch text q done y) (hx : expandFrom fetch text text = .ok x)
    (hy : y.length ≤ p) (hp : p < x.length) : (∃ q done, Own fetch text p q done) ∨ Brought fetch text p := by
  -- by what is left of the text, with `p` still to come
  induction hlen : text.length - q using Nat.strongRecOn generalizing q done y with
  | ind n ih =>
    rcases h.next with ⟨result, hresult, hends⟩ | ⟨hq, ⟨hno, c, hnext⟩ | ⟨e, z, hgives, hnext⟩⟩
    · rw [hx] at hresult
      subst hresult
      cases hends
      omega
    · by_cases hpy : y.length = p
      · exact .inl ⟨q, done, hno, y, h, hpy⟩
      · refine ih _ (by omega) hnext ?_ rfl
        rw [List.length_append, List.length_singleton]
        omega
    · by_cases hpz : p < y.length + z.length
      · exact .inr ⟨q, e, done, y, z, h, hgives, hy, hpz⟩
      · have := hgives.lt
        refine ih _ (by omega) hnext ?_ rfl
        rw [List.length_append]
        omega

theorem UpTo.ends (h : UpTo fetch text q done y) (hx : expandFrom fetch text text = result) :
    ∃ q done y, UpTo fetch text q done y ∧ Ends fetch text q y result := by
  induction hlen : text.length - q using Nat.strongRecOn generalizing q done y with
  | ind n ih =>
    rcases h.next with ⟨result', hresult, hends⟩ | ⟨hq, ⟨-, c, hnext⟩ | ⟨e, z, hgives, hnext⟩⟩
    · obtain rfl := hx.symm.trans hresult
      exact ⟨q, done, y, h, hends⟩
    · exact ih _ (by omega) hnext rfl
    · have := hgives.lt
      exact ih _ (by omega) hnext rfl

theorem start_of_mem_sightText {offset : Nat} {t : Sight} (h : t ∈ sightText offset s) :
    t.start = offset ∧ s ≠ [] := by
  obtain ⟨v, hv, rfl⟩ := List.mem_map.1 h
  refine ⟨rfl, fun hnil => ?_⟩
  rw [hnil] at hv
  cases hv

theorem start_of_mem_sightsFrom {offset : Nat} {t : Sight} (h : t ∈ sightsFrom offset s) :
    t.start < offset + s.length := by
  induction hlen : s.length using Nat.strongRecOn generalizing s offset with
  | ind n ih =>
    have within (u : List Char) (hu : u.length ≤ n) (ht : t ∈ sightText offset u) : t.start < offset + n := by
      obtain ⟨hstart, hne⟩ := start_of_mem_sightText ht
      have := List.length_pos_iff.2 hne
      omega
    cases hnext : next? scanRules s with
    | none =>
      rw [sightsFrom_end hnext] at h
      exact within s (by omega) h
    | some pair =>
      obtain ⟨gap, f⟩ := pair
      obtain ⟨tail, hs, hfirst⟩ := next?_split hnext
      have hgap : gap.length + tail.length = n := by rw [← hlen, hs, List.length_append]
      have htail := length_of_first? hfirst
      rw [sightsFrom_tag hnext] at h
      rcases List.mem_append.1 h with h | h
      · exact within gap (by omega) h
      · rcases List.mem_cons.1 h with rfl | h
        · change offset + gap.length < _
          omega
        · cases hg : goOn? f with
          | none =>
            rw [hg] at h
            cases h
          | some rest =>
            rw [hg, Option.map_some, Option.getD_some] at h
            have := length_of_next? hnext
            have := length_of_goOn? hg
            have := ih rest.length (by omega) h rfl
            omega

/-- The tag of a text that an error is about: the first bad one, or when there is none the one that has opened
the innermost block that stays open. -/
inductive Blamed (x : List Char) : Sight → Prop where
  | bad {before : List Sight} {t : Sight} : FirstBad x before t → Blamed x t
  | unclosed {c : Context} {t : Sight} {outer : List (Context × Sight)} :
      (∀ before u, before ++ [u] <+: sights x → ¬BadAfter before u) →
      LeavesOpen (sights x) ((c, t) :: outer) → Blamed x t

theorem mem_of_leavesOpen {w : List Sight} {blocks : List (Context × Sight)} {b : Context × Sight}
    (h : LeavesOpen w blocks) (hb : b ∈ blocks) : b.2 ∈ w := by
  induction h with
  | none => cases hb
  | block _ _ _ ih =>
    rcases List.mem_cons.1 hb with rfl | hb
    · simp
    · exact List.mem_append_left _ (ih hb)

theorem Blamed.start_lt {t : Sight} (h : Blamed x t) : t.start < x.length := by
  have hmem : t ∈ sights x := by
    cases h with
    | bad hbad => exact hbad.here.subset (by simp)
    | unclosed _ hopen => exact mem_of_leavesOpen hopen List.mem_cons_self
  have := start_of_mem_sightsFrom hmem
  omega

/-- A text is a template and no tag of it is to blame, or its error is about one tag and has the line of it. -/
theorem parse_blamed (x : List Char) :
    ((∃ body, parse x = .ok body) ∧ ∀ t, ¬Blamed x t) ∨
      ∃ t cause, parse x = .error (.tag cause (t.line x)) ∧ ∀ u, Blamed x u ↔ u = t := by
  have hstart : Matches x ⟨[], []⟩ [] := rfl
  have hverdict : Verdict x [] (sights x) (reading x x ⟨[], []⟩) :=
    reading_verdict (List.nil_append x).symm hstart
  change ((∃ body, reading x x ⟨[], []⟩ >>= State.finish = _) ∧ _) ∨
    ∃ t cause, reading x x ⟨[], []⟩ >>= State.finish = _ ∧ _
  generalize hw : sights x = w at hverdict
  generalize reading x x ⟨[], []⟩ = result at hverdict
  cases hverdict with
  | @passed _ st blocks hall hrun hmatch =>
    have hnone (before u) (hu : before ++ [u] <+: sights x) : ¬BadAfter before u :=
      not_badAfter hall hrun (hw ▸ hu)
    have hopen : LeavesOpen (sights x) blocks := hw ▸ leavesOpen_iff.2 hrun
    rcases hmatch.cases with ⟨hst, rfl⟩ | ⟨head, line, around, opens, o, outer, hst, rfl, rfl, -⟩
    · refine .inl ⟨⟨st.body.reverse, ?_⟩, fun t ht => ?_⟩
      · change State.finish st = _
        rw [State.finish, hst]
      · cases ht with
        | bad hbad => exact hnone _ _ hbad.here hbad.bad
        | unclosed _ hopen' => cases hopen'.unique hopen
    · refine .inr ⟨o, .neverClosed head.kind (o.line x), ?_, fun u => ⟨fun hu => ?_, ?_⟩⟩
      · change State.finish st = _
        rw [State.finish, hst]
      · cases hu with
        | bad hbad => exact absurd hbad.bad (hnone _ _ hbad.here)
        | unclosed _ hopen' =>
          have hsame := hopen'.unique hopen
          exact congrArg Prod.snd (List.cons.inj hsame).1
      · rintro rfl
        exact .unclosed hnone hopen
  | @stuck before after t middle cause hall hrun hfault =>
    have hfirst : FirstBad x before t := by
      refine ⟨⟨after, ?_⟩, hfault.badAfter hrun, fun front u hp => not_badAfter hall hrun hp⟩
      rw [hw, List.append_assoc]
      rfl
    refine .inr ⟨t, cause, rfl, fun u => ⟨fun hu => ?_, ?_⟩⟩
    · cases hu with
      | bad hbad => exact (hbad.unique hfirst).2
      | unclosed hnone _ => exact absurd hfirst.bad (hnone before t hfirst.here)
    · rintro rfl
      exact .bad hfirst

theorem blamed_first {gap : List Char} {f : Found} {cause : TagFault}
    (h : next? scanRules x = some (gap, f)) (hfault : FaultOf x [] (visitOf f) cause) :
    Blamed x ⟨visitOf f, gap.length⟩ := by
  have hhere : sightText 0 gap ++ [⟨visitOf f, gap.length⟩] <+: sights x := by
    rw [sights, sightsFrom_tag h, Nat.zero_add]
    exact ⟨_, List.append_assoc _ _ _⟩
  have hrun := advances_sightText 0 gap []
  exact .bad ⟨hhere, hfault.badAfter hrun, fun _ _ hp => not_badAfter wellFormed_sightText hrun hp⟩

theorem blamed_closing (kind : BlockKind) {gap rest : List Char}
    (h : next? scanRules x = some (gap, ⟨closingRule kind, [], rest⟩)) :
    Blamed x ⟨.tag (closingRule kind) [] none, gap.length⟩ := by
  have hfault : FaultOf x [] (.tag (closingRule kind) [] none) (.nothingToClose kind) := by
    cases kind <;> exact .nothing ⟨nofun, nofun, nofun⟩ rfl rfl
  cases kind <;> exact blamed_first h hfault

/-- What the names of includes stand for in a template: their texts, with their own includes carried out. -/
def bringing (resolve : Resolver) : Option (String → Except Fault (List Char)) :=
  resolve.map fun r => fetching r (deepestNesting - 1)

theorem expand_eq_expandFrom (resolve : Resolver) (text : List Char) :
    expand resolve text = expandFrom (bringing resolve) text text := by
  cases resolve <;> rfl

theorem gives_plain {r : String → Except Fault String} {inner : String} (here : includeMark <+: text.drop q)
    (ha : argumentAt? text (q + includeMark.length) = some (g, e)) (hr : r (includeName g) = .ok inner)
    (hplain : cut? includeMark inner.toList = none) : Gives (bringing (some r)) text q e (.ok inner.toList) := by
  have hrun : (r (includeName g) >>= fun text => expandWithin (some r) (deepestNesting - 1) text.toList) =
      .ok inner.toList := by
    rw [hr]
    exact expandFrom_plain hplain
  exact ⟨here, g, _, ha, rfl, hrun⟩

/-- An include of the template itself cannot be carried out. -/
structure OwnInclude (resolve : Resolver) (text : List Char) (q : Nat) (cause : TagFault) : Prop where
  unfit : Unfit (bringing resolve) text q cause
  reached : ∃ done y, UpTo (bringing resolve) text q done y

/-- A tag of the template itself is to blame once all includes have been carried out. -/
structure OwnTag (resolve : Resolver) (text : List Char) (q : Nat) (done : List Carried) : Prop where
  blamed : ∃ x t, expand resolve text = .ok x ∧ Blamed x t ∧ Own (bringing resolve) text t.start q done

/-- A fault comes with a text that is included: that text is not to be had, or a tag in it is to blame. -/
inductive Foreign (resolve : Resolver) (text : List Char) : Fault → Prop where
  | broken {q e : Nat} {done : List Carried} {y : List Char} {fault : Fault} :
      UpTo (bringing resolve) text q done y → Gives (bringing resolve) text q e (.error fault) →
      Foreign resolve text fault
  | brought {x : List Char} {t : Sight} {cause : TagFault} : expand resolve text = .ok x → Blamed x t →
      Brought (bringing resolve) text t.start → Foreign resolve text (.tag cause (t.line x))

theorem Own.line {t : Sight} (h : Own fetch text t.start q done) (hx : expandFrom fetch text text = .ok x) :
    t.line x + takenUp done = lineOf text q + broughtIn done := by
  obtain ⟨y, hreached, hy⟩ := h.reached
  rw [hreached.expansion] at hx
  have htake : x.take t.start = y := by
    cases hrest : expandFrom fetch text (text.drop q) with
    | error fault =>
      rw [hrest] at hx
      cases hx
    | ok rest =>
      rw [hrest] at hx
      obtain rfl := Except.ok.inj hx
      exact List.take_left' hy
  have hfeeds := hreached.feeds
  rw [Sight.line, htake, lineOf_offset]
  omega

/-- An include of the template itself that cannot be carried out is reported with its line in the template.
Any other tag of it that is to blame has its line in the expansion, so what the includes before it take up and
bring in counts, and the line is that in the template just when the two are equally many. All other errors come
with included texts. -/
theorem line_of_own_tag (resolve : Resolver) (source : String) :
    (∀ q cause, OwnInclude resolve source.toList q cause →
      parseText resolve source = .error (.tag cause (lineOf source.toList q))) ∧
    (∀ q done, OwnTag resolve source.toList q done → ∃ cause line,
      parseText resolve source = .error (.tag cause line) ∧
        line + takenUp done = lineOf source.toList q + broughtIn done ∧
        (line = lineOf source.toList q ↔ takenUp done = broughtIn done)) ∧
    ∀ fault, parseText resolve source = .error fault →
      (∃ q cause, OwnInclude resolve source.toList q cause) ∨
        (∃ q done, OwnTag resolve source.toList q done) ∨ Foreign resolve source.toList fault := by
  have hexpand := expand_eq_expandFrom resolve source.toList
  refine ⟨?_, ?_, ?_⟩
  · rintro q cause ⟨hunfit, done, y, hreached⟩
    rw [hreached.expansion, hunfit.expansion] at hexpand
    rw [parseText, hexpand]
    rfl
  · rintro q done ⟨x, t, hx, hblamed, hown⟩
    have hline := hown.line (hexpand.symm.trans hx)
    rcases parse_blamed x with ⟨-, hnone⟩ | ⟨t', cause, herror, hall⟩
    · exact absurd hblamed (hnone t)
    · obtain rfl := (hall t).1 hblamed
      exact ⟨cause, _, (parseText_of_expand hx).trans herror, hline, by omega⟩
  · intro fault hfault
    cases hx : expand resolve source.toList with
    | error stop =>
      rw [parseText, hx] at hfault
      obtain rfl := Except.error.inj hfault
      obtain ⟨q, done, y, hreached, hends⟩ := UpTo.start.ends (hexpand.symm.trans hx)
      cases hends with
      | unfit hunfit => exact .inl ⟨q, _, hunfit, done, y, hreached⟩
      | broken hgives => exact .inr (.inr (.broken hreached hgives))
    | ok x =>
      rw [parseText_of_expand hx] at hfault
      rcases parse_blamed x with ⟨⟨body, hok⟩, -⟩ | ⟨t, cause, herror, hall⟩
      · cases hfault.symm.trans hok
      · obtain rfl := Except.error.inj (hfault.symm.trans herror)
        have hblamed := (hall t).2 rfl
        rcases UpTo.start.origin (hexpand.symm.trans hx) (Nat.zero_le _) hblamed.start_lt with
          ⟨q, done, hown⟩ | hbrought
        · exact .inr (.inl ⟨q, done, x, t, hx, hblamed, hown⟩)
        · exact .inr (.inr (.brought hx hblamed hbrought))

theorem line_of_own_tag_sample :
    let read : String → Except Fault String := fun name =>
      if name = "a" then .ok "x\ny" else .error (.notFound (some name))
    parseText (some read) "@include('a')\n@include(" = .error (.tag .endlessInclude 2) ∧
      ∃ cause, parseText (some read) "@include(\n'a')\n@endif" = .error (.tag cause 3) := by
  intro read
  have hname : includeName "'a'".toList = "a" := by decide
  have hread : read (includeName "'a'".toList) = .ok "x\ny" := by
    rw [hname]
    rfl
  have hplain : cut? includeMark "x\ny".toList = none := by decide
  constructor
  · have hgives : Gives (bringing (some read)) "@include('a')\n@include(".toList 0 13 (.ok "x\ny".toList) :=
      gives_plain (by decide) (g := "'a'".toList) (by decide) hread hplain
    have hreached := (UpTo.start.carried hgives).char (c := '\n') rfl (by decide)
    exact (line_of_own_tag (some read) _).1 14 .endlessInclude ⟨.endless (by decide) (by decide), _, _, hreached⟩
  · have hgives : Gives (bringing (some read)) "@include(\n'a')\n@endif".toList 0 14 (.ok "x\ny".toList) :=
      gives_plain (by decide) (g := "'a'".toList) (by decide) hread hplain
    have hreached := (UpTo.start.carried hgives).char (c := '\n') rfl (by decide)
    have hx : expand (some read) "@include(\n'a')\n@endif".toList = .ok "x\ny\n@endif".toList := by
      rw [expand_eq_expandFrom, hreached.expansion, expandFrom_plain (by decide)]
      rfl
    have hnext : next? scanRules "x\ny\n@endif".toList = some ("x\ny\n".toList, ⟨.endChoice, [], []⟩) := by decide
    have hown : OwnTag (some read) "@include(\n'a')\n@endif".toList 15 _ :=
      ⟨_, _, hx, blamed_closing .choice hnext, by decide, _, hreached, rfl⟩
    obtain ⟨cause, line, herror, hline, -⟩ := (line_of_own_tag (some read) _).2.1 15 _ hown
    change line + 1 = 3 + 1 at hline
    obtain rfl : line = 3 := Nat.succ.inj hline
    exact ⟨cause, herror⟩

/-- A closing tag after an include of two lines is told with its line in the expansion. -/
theorem own_line_is_missed :
    let read : String → Except Fault String := fun name =>
      if name = "a" then .ok "x\ny" else .error (.notFound (some name))
    OwnTag (some read) "@include('a')\n@endif".toList 14 [⟨"@include('a')".toList, "x\ny".toList⟩] ∧
      lineOf "@include('a')\n@endif".toList 14 = 2 ∧
      parseText (some read) "@include('a')\n@endif" = .error (.tag (.nothingToClose .choice) 3) := by
  intro read
  have hname : includeName "'a'".toList = "a" := by decide
  have hread : read (includeName "'a'".toList) = .ok "x\ny" := by
    rw [hname]
    rfl
  have hgives : Gives (bringing (some read)) "@include('a')\n@endif".toList 0 13 (.ok "x\ny".toList) :=
    gives_plain (by decide) (g := "'a'".toList) (by decide) hread (by decide)
  have hreached := (UpTo.start.carried hgives).char (c := '\n') rfl (by decide)
  have hx : expand (some read) "@include('a')\n@endif".toList = .ok "x\ny\n@endif".toList := by
    rw [expand_eq_expandFrom, hreached.expansion, expandFrom_plain (by decide)]
    rfl
  have hnext : next? scanRules "x\ny\n@endif".toList = some ("x\ny\n".toList, ⟨.endChoice, [], []⟩) := by decide
  refine ⟨⟨_, _, hx, blamed_closing .choice hnext, by decide, _, hreached, rfl⟩, by decide, ?_⟩
  rw [parseText_of_expand hx, parse, pieces, piecesFrom_tag hnext]
  rfl

end Stencil.Template
