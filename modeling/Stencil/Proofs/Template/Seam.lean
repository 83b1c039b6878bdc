import Stencil.Proofs.Tag.Append
import Stencil.Proofs.Template.PrintRead
/-!
# Templates that go on

What follows a text does not change how the text is read as long as the scan meets the same tags in it. Then
the parser goes through it as it does when it stands alone, whatever blocks are open around it.
-/

namespace Stencil.Template

open Text Tag

/-- What the parser has read above some open blocks is what it has read without them, the lines of the
opening tags apart. -/
structure Above (below : List Open) (s t : State) : Prop where
  body : t.body = s.body
  blocks : ∃ blocks, t.blocks = blocks ++ below ∧
    blocks.map (fun o => (o.head, o.around)) = s.blocks.map fun o => (o.head, o.around)

variable {below : List Open} {st st' tall : State}

theorem Above.text (h : Above below st tall) (text : String) :
    Above below ⟨addText text st.body, st.blocks⟩ ⟨addText text tall.body, tall.blocks⟩ :=
  ⟨congrArg (addText text) h.body, h.blocks⟩

theorem Above.pushed (h : Above below st tall) (i : Instruction String) :
    Above below ⟨i :: st.body, st.blocks⟩ ⟨i :: tall.body, tall.blocks⟩ :=
  ⟨congrArg (i :: ·) h.body, h.blocks⟩

theorem Above.enter (h : Above below st tall) (head : Head) (line line' : Nat) :
    Above below (st.enter head line) (tall.enter head line') := by
  obtain ⟨blocks, htall, hmap⟩ := h.blocks
  refine ⟨rfl, ⟨head, line', tall.body⟩ :: blocks, by simp [State.enter, htall], ?_⟩
  simp [State.enter, hmap, h.body]

theorem Above.turn (h : Above below st tall) {tag : ArmTag} {line : Nat} {next : List (Arm String) → Head}
    (hs : st.turn tag line next = .ok st') (line' : Nat) :
    ∃ tall', tall.turn tag line' next = .ok tall' ∧ Above below st' tall' := by
  obtain ⟨body, blocks⟩ := st
  obtain ⟨body', blocks'⟩ := tall
  obtain ⟨hbody, above, htall, hmap⟩ := h
  dsimp only at hbody htall hmap
  subst hbody htall
  rcases blocks with _ | ⟨⟨_ | _ | _, opened, around⟩, blocks⟩
  case cons.arm before cond =>
    obtain rfl := Except.ok.inj hs
    obtain ⟨⟨head, opened', around'⟩, above, rfl, hfirst, hrest⟩ := List.map_eq_cons_iff.1 hmap
    obtain ⟨hhead, haround⟩ := Prod.mk.inj hfirst
    dsimp only at hhead haround
    subst hhead haround
    exact ⟨_, rfl, rfl, _ :: above, rfl, congrArg (List.cons _) hrest⟩
  all_goals cases hs

theorem Above.close (h : Above below st tall) {kind : BlockKind} {line : Nat}
    (hs : st.close kind line = .ok st') (line' : Nat) :
    ∃ tall', tall.close kind line' = .ok tall' ∧ Above below st' tall' := by
  obtain ⟨body, blocks⟩ := st
  obtain ⟨body', blocks'⟩ := tall
  obtain ⟨hbody, above, htall, hmap⟩ := h
  dsimp only at hbody htall hmap
  subst hbody htall
  rcases blocks with _ | ⟨⟨head, opened, around⟩, blocks⟩
  · cases hs
  · obtain ⟨⟨head', opened', around'⟩, above, rfl, hfirst, hrest⟩ := List.map_eq_cons_iff.1 hmap
    obtain ⟨hhead, haround⟩ := Prod.mk.inj hfirst
    dsimp only at hhead haround
    subst hhead haround
    unfold State.close at hs
    dsimp only at hs
    split at hs
    · next hkind =>
      obtain rfl := Except.ok.inj hs
      exact ⟨_, if_pos hkind, rfl, above, rfl, hrest⟩
    · cases hs

theorem Above.mark (h : Above below st tall) {m : Mark} {line : Nat} (hs : st.step (.mark m line) = .ok st')
    (line' : Nat) : ∃ tall', tall.step (.mark m line') = .ok tall' ∧ Above below st' tall' := by
  cases m with
  | comment =>
    obtain rfl := Except.ok.inj hs
    exact ⟨tall, rfl, h⟩
  | echo expr =>
    obtain rfl := Except.ok.inj hs
    exact ⟨_, rfl, h.pushed _⟩
  | choice cond =>
    obtain rfl := Except.ok.inj hs
    exact ⟨_, rfl, h.enter _ line line'⟩
  | loop iterable key value =>
    obtain rfl := Except.ok.inj hs
    exact ⟨_, rfl, h.enter _ line line'⟩
  | further cond =>
    change st.turn .further line (fun before => .arm before cond) = .ok st' at hs
    exact h.turn hs line'
  | otherwise =>
    change st.turn .otherwise line .last = .ok st' at hs
    exact h.turn hs line'
  | endChoice =>
    change st.close .choice line = .ok st' at hs
    exact h.close hs line'
  | endLoop =>
    change st.close .loop line = .ok st' at hs
    exact h.close hs line'

theorem Above.textPiece (h : Above below st tall) {s : List Char}
    (hs : (textPiece s).foldlM State.step st = .ok st') :
    ∃ tall', (textPiece s).foldlM State.step tall = .ok tall' ∧ Above below st' tall' := by
  unfold Template.textPiece at hs ⊢
  split
  · next he =>
    rw [if_pos he] at hs
    obtain rfl := Except.ok.inj hs
    exact ⟨tall, rfl, h⟩
  · next he =>
    rw [if_neg he] at hs
    obtain rfl := Except.ok.inj hs
    exact ⟨_, rfl, h.text _⟩

theorem readMark_append {f : Found} {m : Mark} {rest : List Char} (h : readMark f = .ok (m, rest))
    (w : List Char) : readMark (f.before w) = .ok (m, rest ++ w) := by
  have hmap {e : Except TagFault Mark} {r : List Char} (h : e.map (·, r) = .ok (m, rest)) :
      e.map (·, r ++ w) = .ok (m, rest ++ w) := by
    cases e with
    | error cause => cases h
    | ok m' =>
      obtain ⟨rfl, rfl⟩ := Prod.mk.inj (Except.ok.inj h)
      rfl
  unfold readMark at h ⊢
  by_cases hr : f.rule.takesArgument = true
  · have hr' : (f.before w).rule.takesArgument = true := hr
    rw [if_pos hr] at h
    rw [if_pos hr']
    split at h
    · next argument r ha =>
      rw [show (f.before w).rest = f.rest ++ w from rfl, argument?_append ha]
      exact hmap h
    · cases h
  · have hr' : ¬(f.before w).rule.takesArgument = true := hr
    rw [if_neg hr] at h
    rw [if_neg hr']
    exact hmap h

variable {template s u v w : List Char}

/-- The scan of a text meets the same tags when `w` follows it, and after them what it meets in `w`. -/
inductive Seam (w : List Char) : List Char → Prop where
  | last {s : List Char} (h : next? scanRules s = none)
      (hw : next? scanRules (s ++ w) = (next? scanRules w).map fun (gap, f) => (s ++ gap, f)) : Seam w s
  | tag {s gap : List Char} {f : Found} (h : next? scanRules s = some (gap, f))
      (hw : next? scanRules (s ++ w) = some (gap, f.before w))
      (hrest : ∀ rest, goOn? f = some rest → Seam w rest) : Seam w s

theorem addText_addText (a b : String) (body : Body) : addText b (addText a body) = addText (a ++ b) body := by
  rcases body with _ | ⟨_ | _ | _ | _ | _, body⟩
  case cons.literal before => simp only [addText, String.append_assoc]
  all_goals rfl

theorem textPiece_append (u v : List Char) (st : State) :
    (textPiece (u ++ v)).foldlM State.step st =
      (textPiece u).foldlM State.step st >>= (textPiece v).foldlM State.step := by
  cases u with
  | nil => rfl
  | cons c u =>
    cases v with
    | nil =>
      rw [List.append_nil]
      rfl
    | cons d v =>
      have htext := addText_addText (String.ofList (c :: u)) (String.ofList (d :: v)) st.body
      rw [← String.ofList_append] at htext
      exact congrArg (fun body => Except.ok (State.mk body st.blocks)) htext.symm

theorem reading_seam (h : next? scanRules (s ++ w) = (next? scanRules w).map fun (gap, f) => (s ++ gap, f))
    (st : State) :
    reading template (s ++ w) st = (textPiece s).foldlM State.step st >>= reading template w := by
  unfold reading
  cases hw : next? scanRules w with
  | none =>
    rw [hw] at h
    rw [piecesFrom_end h, piecesFrom_end hw, textPiece_append]
  | some pair =>
    obtain ⟨gap, f⟩ := pair
    rw [hw] at h
    have hdrop : (s ++ w).drop (s ++ gap).length = w.drop gap.length := by
      rw [List.length_append, ← List.drop_drop, List.drop_left]
    rw [piecesFrom_tag h, piecesFrom_tag hw, List.foldlM_append, textPiece_append, bind_assoc, hdrop]
    simp only [List.foldlM_append]

theorem Seam.reading (hseam : Seam w s) (hr : reading template s st = .ok st') (template' : List Char)
    (ho : Above below st tall) :
    ∃ tall', Above below st' tall' ∧
      Template.reading template' (s ++ w) tall = Template.reading template' w tall' := by
  induction hseam generalizing st tall with
  | @last s hs hw =>
    rw [Template.reading, piecesFrom_end hs] at hr
    obtain ⟨tall', htall, ho'⟩ := ho.textPiece hr
    refine ⟨tall', ho', ?_⟩
    rw [reading_seam hw, htall]
    rfl
  | @tag s gap f hs hw _ ih =>
    rw [Template.reading, piecesFrom_tag hs, List.foldlM_append] at hr
    obtain ⟨st₁, hgap, hr⟩ := exists_of_bind_ok hr
    obtain ⟨tall₁, htall₁, ho₁⟩ := ho.textPiece hgap
    rcases readMark_cases f with ⟨m, rest, hm, hg, -, -⟩ | ⟨cause, hm, -⟩
    · rw [hm] at hr
      dsimp only at hr
      rw [List.foldlM_cons] at hr
      obtain ⟨st₂, hmark, hr⟩ := exists_of_bind_ok hr
      obtain ⟨tall₂, htall₂, ho₂⟩ := ho₁.mark hmark (lineAt template' ((s ++ w).drop gap.length))
      obtain ⟨tall₃, ho₃, hrest⟩ := ih rest hg hr ho₂
      refine ⟨tall₃, ho₃, ?_⟩
      rw [← hrest]
      unfold Template.reading
      rw [piecesFrom_tag hw, List.foldlM_append, htall₁, readMark_append hm w]
      simp only [bind, Except.bind, List.foldlM_cons, htall₂]
    · rw [hm] at hr
      cases hr

theorem seam_wordy {f : Found} (h : Wordy w) (hw : first? scanRules w = some f) (s : List Char) : Seam w s := by
  -- a tag may be read a long way, so the induction is on how much of `s` is left
  induction hlen : s.length using Nat.strongRecOn generalizing s with
  | ind n ih =>
    have hnext := next?_wordy (s := s) h hw
    cases hs : next? scanRules s with
    | none =>
      rw [hs] at hnext
      obtain ⟨v, rfl⟩ := h.begins
      refine .last hs ?_
      rw [hnext, next?_of_first? hw (List.cons_ne_nil _ _)]
      simp only [Option.map_some, List.append_nil]
    | some found =>
      obtain ⟨gap, f⟩ := found
      rw [hs] at hnext
      refine .tag hs hnext fun rest hrest => ih rest.length ?_ rest rfl
      have := length_of_next? hs
      have := length_of_goOn? hrest
      omega

theorem reading_append {f : Found} (h : Wordy w) (hw : first? scanRules w = some f)
    (hr : reading template s st = .ok st') (template' : List Char) (ho : Above below st tall) :
    ∃ tall', Above below st' tall' ∧
      reading template' (s ++ w) tall = reading template' w tall' :=
  (seam_wordy h hw s).reading hr template' ho

end Stencil.Template
