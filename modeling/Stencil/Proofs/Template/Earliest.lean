import Stencil.Proofs.Tag.Found
import Stencil.Proofs.Template.Block
import Stencil.Proofs.Template.Sight
/-!
# The earliest fault

A text that is no template has a first tag that is wrong by itself or that no further tags can make right,
or else a block that stays open. The parser gives the fault of that tag, or of the innermost of these blocks.
-/

namespace Stencil.Template

open Text Tag

/-- A tag is bad where it stands: it is wrong by itself, or it ends what further tags could complete. -/
def BadAfter (before : List Sight) (t : Sight) : Prop :=
  ¬t.visit.WellFormed ∨
    Viable (before.map Sight.sign) ∧ ¬Viable ((before ++ [t]).map Sight.sign)

/-- A tag of a text is bad, and none of the tags before it is. -/
structure FirstBad (text : List Char) (before : List Sight) (t : Sight) : Prop where
  here : before ++ [t] <+: sights text
  bad : BadAfter before t
  first : ∀ front u, front ++ [u] <+: before → ¬BadAfter front u

def turningSign : ArmTag → Sign
  | .further => .further
  | .otherwise => .otherwise

/-- What is wrong with a tag of a text after tags that leave some blocks open. -/
inductive FaultOf (text : List Char) (blocks : List (Context × Sight)) : Visit → TagFault → Prop where
  | endless {r : Rule} {picked : List Char} : r.takesArgument →
      FaultOf text blocks (.tag r picked none) (.endlessArgument r.name)
  | empty {r : Rule} {picked : List Char} : r.takesArgument →
      FaultOf text blocks (.tag r picked (some [])) (.emptyArgument r.name)
  | shape {picked argument : List Char} : argument ≠ [] → ¬LoopShape argument →
      FaultOf text blocks (.tag .loop picked (some argument)) (.loopShape (String.ofList argument))
  | glued {picked : List Char} {argument : Option (List Char)} : picked ≠ [] →
      FaultOf text blocks (.tag .otherwise picked argument) (.gluedElse (String.ofList picked))
  | outside {v : Visit} {turn : ArmTag} : v.WellFormed → v.sign = turningSign turn →
      (blocks = [] ∨ ∃ o outer, blocks = (.loop, o) :: outer) → FaultOf text blocks v (.outsideChoice turn)
  | late {v : Visit} {turn : ArmTag} {o : Sight} {outer : List (Context × Sight)} :
      v.WellFormed → v.sign = turningSign turn → blocks = (.last, o) :: outer →
      FaultOf text blocks v (.afterElse turn)
  | nothing {v : Visit} {kind : BlockKind} : v.WellFormed → v.sign = closingSign kind → blocks = [] →
      FaultOf text blocks v (.nothingToClose kind)
  | wrong {v : Visit} {kind : BlockKind} {c : Context} {o : Sight} {outer : List (Context × Sight)} :
      v.WellFormed → v.sign = closingSign kind → blocks = (c, o) :: outer → c.kind ≠ kind →
      FaultOf text blocks v (.wrongCloser kind c.kind (o.line text))

variable {text : List Char} {blocks : List (Context × Sight)}

theorem FaultOf.refused {t : Sight} {cause : TagFault} (h : FaultOf text blocks t.visit cause) :
    ¬t.visit.WellFormed ∨ advance blocks t = none := by
  obtain ⟨v, start⟩ := t
  cases h with
  | endless hr =>
    left
    rintro ⟨harg, -⟩
    obtain ⟨a, ha, -⟩ := harg hr
    cases ha
  | empty hr =>
    left
    rintro ⟨harg, -⟩
    obtain ⟨a, ha, hne⟩ := harg hr
    exact hne (Option.mem_some.1 ha).symm
  | shape hne hshape =>
    left
    rintro ⟨-, hloop, -⟩
    obtain ⟨a, ha, h⟩ := hloop rfl
    obtain rfl := Option.mem_some.1 ha
    exact hshape h
  | glued hne =>
    left
    rintro ⟨-, -, hword⟩
    exact hne (hword rfl)
  | @outside _ turn _ hs hblocks =>
    refine .inr (advance_eq_none ?_)
    change shift _ v.sign = none
    rw [hs]
    rcases hblocks with rfl | ⟨o, outer, rfl⟩ <;> cases turn <;> rfl
  | @late _ turn o outer _ hs hblocks =>
    refine .inr (advance_eq_none ?_)
    change shift _ v.sign = none
    rw [hs, hblocks]
    cases turn <;> rfl
  | @nothing _ kind _ hs hblocks =>
    refine .inr (advance_eq_none ?_)
    change shift _ v.sign = none
    rw [hs, hblocks]
    cases kind <;> rfl
  | @wrong _ kind c o outer _ hs hblocks hne =>
    refine .inr (advance_eq_none ?_)
    change shift _ v.sign = none
    rw [hs, hblocks]
    cases kind <;> cases c <;> first | rfl | exact absurd rfl hne

/-- The parser has the blocks open that the automaton has, with the lines of the tags that opened them. -/
def Matches (text : List Char) (st : State) (blocks : List (Context × Sight)) : Prop :=
  st.blocks.map (fun o => (o.head.context, o.line)) = blocks.map fun b => (b.1, b.2.line text)

theorem Head.kind_context (head : Head) : head.context.kind = head.kind := by
  cases head <;> rfl

variable {st : State} {t : Sight}

theorem Matches.cases (h : Matches text st blocks) :
    (st.blocks = [] ∧ blocks = []) ∨
    ∃ head line around opens o outer, st.blocks = ⟨head, line, around⟩ :: opens ∧
      blocks = (head.context, o) :: outer ∧ line = o.line text ∧
      ∀ body, Matches text ⟨body, opens⟩ outer := by
  obtain ⟨body, opens⟩ := st
  cases opens with
  | nil => exact .inl ⟨rfl, List.map_eq_nil_iff.1 h.symm⟩
  | cons top opens =>
    obtain ⟨⟨c, o⟩, outer, rfl, hfirst, hrest⟩ := List.map_eq_cons_iff.1 h.symm
    obtain ⟨hcontext, hline⟩ := Prod.mk.inj hfirst
    obtain ⟨head, line, around⟩ := top
    dsimp only at hcontext hline
    subst hcontext hline
    exact .inr ⟨head, _, around, opens, o, outer, rfl, rfl, rfl, fun _ => hrest.symm⟩

theorem Matches.turn {c : Context} (h : Matches text st blocks) (turn : ArmTag)
    (next : List (Arm String) → Head) (hs : t.sign = turningSign turn) (hw : t.visit.WellFormed)
    (hnext : ∀ before, (next before).context = c)
    (hgo : ∀ o outer, advance ((.arm, o) :: outer) t = some ((c, o) :: outer)) (line : Nat) :
    (∃ st' next', st.turn turn line next = .ok st' ∧ advance blocks t = some next' ∧ Matches text st' next') ∨
    ∃ cause, st.turn turn line next = .error (.tag cause line) ∧ FaultOf text blocks t.visit cause := by
  unfold State.turn
  rcases h.cases with ⟨hopens, rfl⟩ | ⟨head, opened, around, opens, o, outer, hopens, rfl, rfl, hrest⟩
  · rw [hopens]
    exact .inr ⟨_, rfl, .outside hw hs (.inl rfl)⟩
  · rw [hopens]
    cases head with
    | arm before cond =>
      refine .inl ⟨_, _, rfl, hgo o outer, ?_⟩
      have hcontext := hnext (before ++ [.mk cond st.body.reverse])
      exact List.cons_eq_cons.2 ⟨Prod.ext hcontext rfl, hrest []⟩
    | last arms => exact .inr ⟨_, rfl, .late hw hs rfl⟩
    | loop iterable key value => exact .inr ⟨_, rfl, .outside hw hs (.inr ⟨o, outer, rfl⟩)⟩

theorem Matches.close (h : Matches text st blocks) (kind : BlockKind) (hs : t.sign = closingSign kind)
    (hw : t.visit.WellFormed) (line : Nat) :
    (∃ st' next, st.close kind line = .ok st' ∧ advance blocks t = some next ∧ Matches text st' next) ∨
    ∃ cause, st.close kind line = .error (.tag cause line) ∧ FaultOf text blocks t.visit cause := by
  unfold State.close
  rcases h.cases with ⟨hopens, rfl⟩ | ⟨head, opened, around, opens, o, outer, hopens, rfl, rfl, hrest⟩
  · rw [hopens]
    exact .inr ⟨_, rfl, .nothing hw hs rfl⟩
  · rw [hopens]
    dsimp only
    by_cases hkind : head.kind = kind
    · rw [if_pos hkind]
      exact .inl ⟨_, outer, rfl, advance_closer (by rw [hs, head.kind_context, hkind]) o outer, hrest _⟩
    · rw [if_neg hkind, ← head.kind_context]
      refine .inr ⟨_, rfl, .wrong hw hs rfl ?_⟩
      rwa [head.kind_context]

theorem Matches.enter {head : Head} (h : Matches text st blocks) :
    Matches text (st.enter head (t.line text)) ((head.context, t) :: blocks) :=
  congrArg (List.cons _) h

theorem Matches.step {m : Mark} (h : Matches text st blocks)
    (hm : (Piece.mark m (t.line text)).sign? = some t.sign) (hw : t.visit.WellFormed) :
    (∃ st' next, st.step (.mark m (t.line text)) = .ok st' ∧ advance blocks t = some next ∧
      Matches text st' next) ∨
    ∃ cause, st.step (.mark m (t.line text)) = .error (.tag cause (t.line text)) ∧
      FaultOf text blocks t.visit cause := by
  cases m with
  | comment | echo =>
    have hs := (Option.some.inj hm).symm
    exact .inl ⟨_, blocks, rfl, advance_leaf (by rw [hs]; rfl) blocks, h⟩
  | choice cond =>
    have hs := (Option.some.inj hm).symm
    exact .inl ⟨_, _, rfl, advance_opener (c := .arm) hs blocks, h.enter⟩
  | loop iterable key value =>
    have hs := (Option.some.inj hm).symm
    exact .inl ⟨_, _, rfl, advance_opener (c := .loop) hs blocks, h.enter⟩
  | further cond =>
    have hs := (Option.some.inj hm).symm
    exact h.turn (c := .arm) .further (fun before => .arm before cond) hs hw (fun _ => rfl)
      (advance_further hs) _
  | otherwise =>
    have hs := (Option.some.inj hm).symm
    exact h.turn (c := .last) .otherwise .last hs hw (fun _ => rfl) (advance_otherwise hs) _
  | endChoice =>
    have hs := (Option.some.inj hm).symm
    exact h.close .choice hs hw _
  | endLoop =>
    have hs := (Option.some.inj hm).symm
    exact h.close .loop hs hw _

theorem faultOf_readMark {f : Found} {cause : TagFault} (h : readMark f = .error cause) :
    FaultOf text blocks (visitOf f) cause := by
  have of_map {e : Except TagFault Mark} {rest : List Char} (h : e.map (·, rest) = .error cause) :
      e = .error cause := by
    cases e with
    | ok m => cases h
    | error other => exact congrArg Except.error (Except.error.inj h)
  unfold readMark at h
  unfold visitOf
  cases hr : f.rule.takesArgument with
  | false =>
    rw [if_neg (by simp [hr])] at h
    have halone := of_map h
    obtain ⟨r, picked, rest⟩ := f
    cases r with
    | otherwise =>
      cases picked with
      | nil => cases halone
      | cons c picked =>
        obtain rfl := Except.error.inj halone
        exact .glued (List.cons_ne_nil c picked)
    | inclusion | choice | further | loop => cases hr
    | echo | endChoice | endLoop | comment => cases halone
  | true =>
    rw [if_pos hr] at h
    cases ha : argument? f.rest with
    | none =>
      rw [ha] at h
      obtain rfl := Except.error.inj h
      exact .endless hr
    | some pair =>
      obtain ⟨argument, rest⟩ := pair
      rw [ha] at h
      have hwith := of_map h
      unfold markWith at hwith
      split at hwith
      · next hempty =>
        obtain rfl := List.isEmpty_iff.1 hempty
        obtain rfl := Except.error.inj hwith
        exact .empty hr
      · next hempty =>
        obtain ⟨r, picked, rest'⟩ := f
        cases r with
        | loop =>
          simp only [loopMark] at hwith
          cases hl : loopHead? argument with
          | some head =>
            rw [hl] at hwith
            cases hwith
          | none =>
            rw [hl] at hwith
            obtain rfl := Except.error.inj hwith
            refine .shape (by simpa using hempty) fun hshape => ?_
            rw [← loopHead?_isSome_iff, hl] at hshape
            cases hshape
        | inclusion | choice | further => cases hwith
        | echo | otherwise | endChoice | endLoop | comment => cases hr

theorem lineAt_drop (front s : List Char) (n : Nat) (v : Visit) :
    lineAt (front ++ s) (s.drop n) = Sight.line (front ++ s) ⟨v, front.length + n⟩ := by
  have htake : (front ++ s).take (front.length + n) = front ++ s.take n := List.take_length_add_append n
  have hcount : lineFeeds s = lineFeeds (s.take n) + lineFeeds (s.drop n) := by
    rw [lineFeeds, lineFeeds, lineFeeds, ← List.count_append, List.take_append_drop]
  have hall (u : List Char) : lineFeeds (front ++ u) = lineFeeds front + lineFeeds u := List.count_append
  rw [lineAt, Sight.line, htake, hall, hall, hcount]
  omega

/-- What the parser gives for a sequence that a scan meets: it has the blocks open that the automaton has, or
it has the fault of the first tag that is wrong. -/
inductive Verdict (text : List Char) (blocks : List (Context × Sight)) :
    List Sight → Except Fault State → Prop where
  | passed {w : List Sight} {st : State} {next : List (Context × Sight)} :
      (∀ t ∈ w, t.visit.WellFormed) → advances blocks w = some next → Matches text st next →
      Verdict text blocks w (.ok st)
  | stuck {before after : List Sight} {t : Sight} {middle : List (Context × Sight)} {cause : TagFault} :
      (∀ u ∈ before, u.visit.WellFormed) → advances blocks before = some middle →
      FaultOf text middle t.visit cause →
      Verdict text blocks (before ++ t :: after) (.error (.tag cause (t.line text)))

theorem Verdict.after {u w : List Sight} {middle : List (Context × Sight)} {result : Except Fault State}
    (h : Verdict text middle w result) (hu : ∀ t ∈ u, t.visit.WellFormed)
    (hrun : advances blocks u = some middle) : Verdict text blocks (u ++ w) result := by
  have hall {v : List Sight} (hv : ∀ t ∈ v, t.visit.WellFormed) : ∀ t ∈ u ++ v, t.visit.WellFormed :=
    fun t ht => (List.mem_append.1 ht).elim (hu t) (hv t)
  cases h with
  | passed hw hadvances hmatch =>
    refine .passed (hall hw) ?_ hmatch
    rw [advances_append, hrun]
    exact hadvances
  | stuck hw hadvances hfault =>
    rw [← List.append_assoc]
    refine .stuck (hall hw) ?_ hfault
    rw [advances_append, hrun]
    exact hadvances

theorem wellFormed_sightText {offset : Nat} {s : List Char} : ∀ t ∈ sightText offset s, t.visit.WellFormed := by
  intro t ht
  obtain ⟨v, hv, rfl⟩ := List.mem_map.1 ht
  exact wellFormed_of_mem_visitText hv

theorem advances_sightText (offset : Nat) (s : List Char) (blocks : List (Context × Sight)) :
    advances blocks (sightText offset s) = some blocks := by
  unfold sightText visitText
  split
  · rfl
  · rfl

theorem Matches.textPiece (h : Matches text st blocks) (s : List Char) :
    ∃ st', (textPiece s).foldlM State.step st = .ok st' ∧ Matches text st' blocks := by
  unfold Template.textPiece
  split
  · exact ⟨st, rfl, h⟩
  · exact ⟨_, rfl, h⟩

theorem suffix_of_goOn? {f : Found} {rest : List Char} (h : goOn? f = some rest) : rest <:+ f.rest := by
  unfold goOn? at h
  split at h
  · obtain ⟨⟨argument, r⟩, ha, rfl⟩ := Option.map_eq_some_iff.1 h
    exact suffix_of_argument? ha
  · obtain rfl := Option.some.inj h
    exact List.suffix_refl _

theorem sign?_of_agree {p : Piece} {v : Visit} (h : Agree [p] [v]) : p.sign? = some v.sign := by
  have hsigns := h.signs
  rw [List.mapM_cons] at hsigns
  obtain ⟨sign, hp, hsigns⟩ := Option.bind_eq_some_iff.1 hsigns
  rw [hp, (List.cons.inj (Option.some.inj hsigns)).1]

theorem reading_verdict {front s : List Char} (htext : text = front ++ s) (h : Matches text st blocks) :
    Verdict text blocks (sightsFrom front.length s) (reading text s st) := by
  induction hlen : s.length using Nat.strongRecOn generalizing front s st blocks with
  | ind n ih =>
    unfold reading
    cases hnext : next? scanRules s with
    | none =>
      obtain ⟨st', hst, hmatch⟩ := h.textPiece s
      rw [piecesFrom_end hnext, sightsFrom_end hnext, hst]
      exact .passed wellFormed_sightText (advances_sightText _ _ _) hmatch
    | some pair =>
      obtain ⟨gap, f⟩ := pair
      obtain ⟨st₁, hgap, hmatch₁⟩ := h.textPiece gap
      have hline : lineAt text (s.drop gap.length) =
          Sight.line text ⟨visitOf f, front.length + gap.length⟩ := by
        rw [htext]
        exact lineAt_drop front s gap.length _
      rw [piecesFrom_tag hnext, sightsFrom_tag hnext, List.foldlM_append, hgap, hline]
      refine Verdict.after ?_ wellFormed_sightText (advances_sightText _ _ blocks)
      rcases readMark_cases f with ⟨m, rest, hm, hg, hw, hagree⟩ | ⟨cause, hm, hw⟩
      · have hsign := sign?_of_agree (hagree (Sight.line text ⟨visitOf f, front.length + gap.length⟩))
        obtain ⟨used, hused⟩ := (suffix_of_goOn? hg).trans (suffix_of_next? hnext)
        have hlength : s.length - rest.length = used.length := by
          rw [← hused, List.length_append, Nat.add_sub_cancel]
        have hlt : rest.length < n := by
          have := length_of_next? hnext
          have := length_of_goOn? hg
          omega
        rw [hm, hg]
        dsimp only [Option.map_some, Option.getD_some]
        rcases hmatch₁.step hsign hw with ⟨st₂, next, hstep, hadvance, hmatch₂⟩ | ⟨cause, hstep, hfault⟩
        · have hsplit : text = front ++ used ++ rest := by rw [htext, ← hused, List.append_assoc]
          have hrest := ih rest.length hlt hsplit hmatch₂ rfl
          rw [List.length_append, ← hlength] at hrest
          change Verdict text blocks _ (List.foldlM State.step st₁ (_ :: _))
          rw [List.foldlM_cons, hstep]
          have hone : advances blocks [⟨visitOf f, front.length + gap.length⟩] = some next := by
            rw [advances_cons, hadvance]
            rfl
          exact hrest.after (List.forall_mem_singleton.2 hw) hone
        · change Verdict text blocks ([] ++ _ :: _) (List.foldlM State.step st₁ (_ :: _))
          rw [List.foldlM_cons, hstep]
          exact .stuck nofun rfl hfault
      · rw [hm]
        change Verdict text blocks ([] ++ _ :: _) _
        exact .stuck nofun rfl (faultOf_readMark hm)

theorem viable_of_advances {u v : List Sight} {next : List (Context × Sight)}
    (h : advances [] (u ++ v) = some next) : Viable (u.map Sight.sign) := by
  rw [advances_append] at h
  obtain ⟨middle, hu, -⟩ := Option.bind_eq_some_iff.1 h
  exact viable_iff_leavesOpen.2 ⟨middle, leavesOpen_iff.2 hu⟩

theorem not_badAfter {w before : List Sight} {next : List (Context × Sight)}
    (hw : ∀ u ∈ w, u.visit.WellFormed) (hrun : advances [] w = some next) (hhere : before ++ [t] <+: w) :
    ¬BadAfter before t := by
  obtain ⟨after, rfl⟩ := hhere
  rintro (hbad | ⟨-, hbad⟩)
  · exact hbad (hw t (by simp))
  · exact hbad (viable_of_advances hrun)

theorem FaultOf.badAfter {before : List Sight} {cause : TagFault} (h : FaultOf text blocks t.visit cause)
    (hrun : advances [] before = some blocks) : BadAfter before t := by
  rcases h.refused with hw | hstop
  · exact .inl hw
  · refine .inr ⟨viable_iff_leavesOpen.2 ⟨blocks, leavesOpen_iff.2 hrun⟩, fun hviable => ?_⟩
    obtain ⟨next, hnext⟩ := viable_iff_leavesOpen.1 hviable
    have hall := leavesOpen_iff.1 hnext
    rw [advances_append, hrun, Option.bind_some, advances_cons, hstop] at hall
    cases hall

theorem FirstBad.unique {before before' : List Sight} {t' : Sight} (h : FirstBad text before t)
    (h' : FirstBad text before' t') : before = before' ∧ t = t' := by
  have heq : before ++ [t] = before' ++ [t'] := by
    rcases List.prefix_or_prefix_of_prefix h.here h'.here with hp | hp
    · exact (List.prefix_concat_iff.1 hp).resolve_right fun hlt => h'.first before t hlt h.bad
    · exact ((List.prefix_concat_iff.1 hp).resolve_right fun hlt => h.first before' t' hlt h'.bad).symm
  exact List.append_singleton_inj.1 heq

def closingWord : BlockKind → List Char
  | .choice => endChoiceWord
  | .loop => endLoopWord

/-- The tags that close open blocks, which are given innermost first. -/
def closers (blocks : List (Context × Sight)) : List Char := blocks.flatMap fun b => closingWord b.1.kind

def closingRule : BlockKind → Rule
  | .choice => .endChoice
  | .loop => .endLoop

theorem first?_closing (kind : BlockKind) {rest : List Char} (h : rest = [] ∨ ∃ v, rest = '@' :: v) :
    first? scanRules (closingWord kind ++ rest) = some ⟨closingRule kind, [], rest⟩ := by
  cases kind <;> rcases h with rfl | ⟨v, rfl⟩ <;> rfl

theorem closers_begin (blocks : List (Context × Sight)) :
    closers blocks = [] ∨ ∃ v, closers blocks = '@' :: v := by
  rcases blocks with _ | ⟨⟨c, o⟩, blocks⟩
  · exact .inl rfl
  · cases c <;> exact .inr ⟨_, rfl⟩

theorem wordy_closers (b : Context × Sight) (blocks : List (Context × Sight)) :
    Wordy (closers (b :: blocks)) := by
  constructor
  · obtain ⟨c, o⟩ := b
    cases c <;> exact ⟨_, rfl⟩
  · intro hmem
    obtain ⟨b, -, hb⟩ := List.mem_flatMap.1 hmem
    cases hkind : b.1.kind <;> rw [hkind] at hb <;> revert hb <;> decide

theorem readMark_closing (kind : BlockKind) (rest : List Char) :
    readMark ⟨closingRule kind, [], rest⟩ = .ok (closer kind, rest) := by
  cases kind <;> rfl

theorem step_closing (st : State) (kind : BlockKind) (line : Nat) :
    st.step (.mark (closer kind) line) = st.close kind line := by
  cases kind <;> rfl

theorem reading_closers (template : List Char)
    (hkinds : st.blocks.map (·.head.kind) = blocks.map (·.1.kind)) :
    ∃ body, reading template (closers blocks) st = .ok ⟨body, []⟩ := by
  induction blocks generalizing st with
  | nil =>
    obtain ⟨body, opens⟩ := st
    obtain rfl := List.map_eq_nil_iff.1 hkinds
    exact ⟨body, by rw [reading, closers, List.flatMap_nil, piecesFrom_end rfl]; rfl⟩
  | cons b blocks ih =>
    obtain ⟨body, opens⟩ := st
    obtain ⟨⟨head, line, around⟩, opens, rfl, hkind, hrest⟩ := List.map_eq_cons_iff.1 hkinds
    have hfirst := first?_closing b.1.kind (closers_begin blocks)
    have hne : closingWord b.1.kind ++ closers blocks ≠ [] := by
      cases b.1.kind <;> exact List.cons_ne_nil _ _
    have hlater : (State.mk (head.close body.reverse :: around) opens).blocks.map (·.head.kind) =
        blocks.map (·.1.kind) := hrest
    obtain ⟨body', hread⟩ := ih hlater
    refine ⟨body', ?_⟩
    change reading template (closingWord b.1.kind ++ closers blocks) _ = _
    rw [reading_mark (next?_of_first? hfirst hne) (readMark_closing _ _), step_closing, State.close]
    dsimp only at hkind ⊢
    rw [if_pos hkind]
    exact hread

theorem parse_closers {x : List Char} (hread : reading x x ⟨[], []⟩ = .ok st) (h : Matches x st blocks) :
    ∃ body, parse (x ++ closers blocks) = .ok body := by
  cases blocks with
  | nil =>
    obtain ⟨body, opens⟩ := st
    obtain rfl := List.map_eq_nil_iff.1 h
    refine ⟨body.reverse, ?_⟩
    rw [closers, List.flatMap_nil, List.append_nil]
    change reading x x ⟨[], []⟩ >>= State.finish = _
    rw [hread]
    rfl
  | cons b outer =>
    have hfirst := first?_closing b.1.kind (closers_begin outer)
    have hnothing : Above [] ⟨[], []⟩ ⟨[], []⟩ := ⟨rfl, [], rfl, rfl⟩
    obtain ⟨tall, habove, htall⟩ := reading_append (wordy_closers b outer) hfirst hread
      (x ++ closers (b :: outer)) hnothing
    have hkinds : tall.blocks.map (·.head.kind) = (b :: outer).map (·.1.kind) := by
      obtain ⟨opens, htall', hsame⟩ := habove.blocks
      have hheads : tall.blocks.map (·.head.kind) = st.blocks.map (·.head.kind) := by
        rw [htall', List.append_nil]
        have := congrArg (List.map fun p : Head × Body => p.1.kind) hsame
        rwa [List.map_map, List.map_map] at this
      have := congrArg (List.map fun p : Context × Nat => p.1.kind) h
      rw [List.map_map, List.map_map] at this
      rw [hheads]
      simpa only [Function.comp_def, Head.kind_context] using this
    obtain ⟨body, hclose⟩ := reading_closers (x ++ closers (b :: outer)) hkinds
    refine ⟨body.reverse, ?_⟩
    change reading (x ++ closers (b :: outer)) (x ++ closers (b :: outer)) ⟨[], []⟩ >>= State.finish = _
    rw [htall, hclose]
    rfl

/-- The fault of a text whose includes are expanded is that of its first bad tag, and has the line of that
tag. Without a bad tag it is the fault of the innermost block that stays open, if there is one, and then the
closing tags of all open blocks make a template of the text. -/
theorem earliest_fault {resolve : Resolver} {source : String} {x : List Char}
    (h : expand resolve source.toList = .ok x) :
    (∀ before t, FirstBad x before t → ∃ blocks cause, LeavesOpen before blocks ∧
      FaultOf x blocks t.visit cause ∧ parseText resolve source = .error (.tag cause (t.line x))) ∧
    ((∀ before t, before ++ [t] <+: sights x → ¬BadAfter before t) →
      (∃ blocks, LeavesOpen (sights x) blocks) ∧
      (LeavesOpen (sights x) [] → ∃ body, parseText resolve source = .ok body) ∧
      ∀ c t outer, LeavesOpen (sights x) ((c, t) :: outer) →
        parseText resolve source = .error (.tag (.neverClosed c.kind (t.line x)) (t.line x)) ∧
        ∃ body, parse (x ++ closers ((c, t) :: outer)) = .ok body) := by
  have hparse : parseText resolve source = reading x x ⟨[], []⟩ >>= State.finish := parseText_of_expand h
  have hstart : Matches x ⟨[], []⟩ [] := rfl
  have hverdict : Verdict x [] (sights x) (reading x x ⟨[], []⟩) :=
    reading_verdict (List.nil_append x).symm hstart
  rw [hparse]
  generalize hw : sights x = w at hverdict
  generalize hread : reading x x ⟨[], []⟩ = result at hverdict
  cases hverdict with
  | @passed _ st next hall hrun hmatch =>
    refine ⟨?_, fun _ => ⟨⟨next, leavesOpen_iff.2 hrun⟩, ?_, ?_⟩⟩
    · intro before t hfirst
      exact absurd hfirst.bad (not_badAfter hall hrun (hw ▸ hfirst.here))
    · intro hopen
      obtain rfl := hopen.unique (leavesOpen_iff.2 hrun)
      obtain ⟨body, opens⟩ := st
      obtain rfl := List.map_eq_nil_iff.1 hmatch
      exact ⟨body.reverse, rfl⟩
    · intro c t outer hopen
      obtain rfl := hopen.unique (leavesOpen_iff.2 hrun)
      refine ⟨?_, parse_closers hread hmatch⟩
      rcases hmatch.cases with ⟨-, hnone⟩ | ⟨head, line, around, opens, o, outer', hopens, hblocks, rfl, -⟩
      · cases hnone
      · obtain ⟨hinner, rfl⟩ := List.cons.inj hblocks
        obtain ⟨rfl, rfl⟩ := Prod.mk.inj hinner
        change State.finish st = _
        rw [State.finish, hopens, head.kind_context]
  | @stuck before after t middle cause hall hrun hfault =>
    have hfirst : FirstBad x before t := by
      refine ⟨⟨after, ?_⟩, hfault.badAfter hrun, fun front u hp => not_badAfter hall hrun hp⟩
      rw [hw, List.append_assoc]
      rfl
    refine ⟨?_, ?_⟩
    · intro before' t' hfirst'
      obtain ⟨rfl, rfl⟩ := hfirst'.unique hfirst
      exact ⟨middle, cause, leavesOpen_iff.2 hrun, hfault, rfl⟩
    · intro hnone
      exact absurd hfirst.bad (hnone before t (hw ▸ hfirst.here))

/-- A tag that closes nothing counts before a later one without an end, and a choice that stays open is
named with its own line. -/
theorem earliest_fault_sample :
    parseText none "a\n@endif@if(" = .error (.tag (.nothingToClose .choice) 2) ∧
    parseText none "a\n@if(x)\nb" = .error (.tag (.neverClosed .choice 2) 2) ∧
    ∃ body, parse "a\n@if(x)\nb@endif".toList = .ok body := by
  have hbad : expand (none : Resolver) "a\n@endif@if(".toList = .ok "a\n@endif@if(".toList :=
    expand_plain (by decide)
  have hopen : expand (none : Resolver) "a\n@if(x)\nb".toList = .ok "a\n@if(x)\nb".toList :=
    expand_plain (by decide)
  refine ⟨?_, ?_⟩
  · have h1 : next? scanRules "a\n@endif@if(".toList = some ("a\n".toList, ⟨.endChoice, [], "@if(".toList⟩) := by
      decide
    have h2 : next? scanRules "@if(".toList = some ([], ⟨.choice, [], []⟩) := by decide
    have g1 : goOn? ⟨.endChoice, [], "@if(".toList⟩ = some "@if(".toList := rfl
    have g2 : goOn? ⟨.choice, [], []⟩ = none := rfl
    have hw : sights "a\n@endif@if(".toList =
        [⟨.text "a\n".toList, 0⟩] ++ [⟨.tag .endChoice [] none, 2⟩] ++ [⟨.tag .choice [] none, 8⟩] := by
      rw [sights, sightsFrom_tag h1, g1, Option.map_some, Option.getD_some, sightsFrom_tag h2, g2]
      rfl
    have hfault : FaultOf "a\n@endif@if(".toList [] (.tag .endChoice [] none) (.nothingToClose .choice) :=
      .nothing ⟨nofun, nofun, nofun⟩ rfl rfl
    have hfirst : FirstBad "a\n@endif@if(".toList [⟨.text "a\n".toList, 0⟩] ⟨.tag .endChoice [] none, 2⟩ := by
      refine ⟨⟨_, hw.symm⟩, hfault.badAfter rfl, fun front u hp => ?_⟩
      exact not_badAfter (w := [⟨.text "a\n".toList, 0⟩]) (List.forall_mem_singleton.2 trivial) rfl hp
    obtain ⟨blocks, cause, hblocks, hcause, herror⟩ := (earliest_fault hbad).1 _ _ hfirst
    obtain rfl : blocks = [] := hblocks.unique (leavesOpen_iff.2 rfl)
    have hline : Sight.line "a\n@endif@if(".toList ⟨.tag .endChoice [] none, 2⟩ = 2 := rfl
    rw [herror, hline]
    cases hcause with
    | endless hr => cases hr
    | @outside _ turn _ hs _ => cases turn <;> cases hs
    | @nothing _ kind _ hs _ =>
      cases kind with
      | choice => rfl
      | loop => cases hs
    | late _ _ hb | wrong _ _ hb => cases hb
  · have h1 : next? scanRules "a\n@if(x)\nb".toList = some ("a\n".toList, ⟨.choice, [], "x)\nb".toList⟩) := by
      decide
    have h2 : next? scanRules "\nb".toList = none := by decide
    have g1 : goOn? ⟨.choice, [], "x)\nb".toList⟩ = some "\nb".toList := by decide
    have hw : sights "a\n@if(x)\nb".toList = [⟨.text "a\n".toList, 0⟩,
        ⟨.tag .choice [] (some ['x']), 2⟩, ⟨.text "\nb".toList, 8⟩] := by
      rw [sights, sightsFrom_tag h1, g1, Option.map_some, Option.getD_some, sightsFrom_end h2]
      rfl
    have hall : ∀ t ∈ sights "a\n@if(x)\nb".toList, t.visit.WellFormed := by
      rw [hw]
      simp [Visit.WellFormed, Rule.takesArgument]
    have hrun : advances [] (sights "a\n@if(x)\nb".toList) =
        some [(.arm, ⟨.tag .choice [] (some ['x']), 2⟩)] := by
      rw [hw]
      rfl
    obtain ⟨-, -, hinner⟩ := (earliest_fault hopen).2 fun _ _ => not_badAfter hall hrun
    exact hinner _ _ _ (leavesOpen_iff.2 hrun)

end Stencil.Template
