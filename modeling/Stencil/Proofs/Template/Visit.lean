import Stencil.Proofs.Tag.Loop
import Stencil.Proofs.Template.Grammar
import Stencil.Proofs.Template.Linear
/-!
# What a scan meets

The scan of a template meets stretches of text and tags, and reads the argument of each tag that takes
one. It goes past tags that are wrong by themselves, which the pieces of the template end at.
-/

namespace Stencil.Template

open Tag

/-- A stretch of text that is not empty, or a tag with what its rule picks out of it and, if it takes an
argument that ends, the argument. -/
inductive Visit where
  | text (s : List Char)
  | tag (r : Rule) (picked : List Char) (argument : Option (List Char))
deriving Repr, DecidableEq

def visitOf (f : Found) : Visit :=
  .tag f.rule f.picked (if f.rule.takesArgument then (argument? f.rest).map (·.1) else none)

def goOn? (f : Found) : Option (List Char) :=
  if f.rule.takesArgument then (argument? f.rest).map (·.2) else some f.rest

theorem length_of_goOn? {f : Found} {rest : List Char} (h : goOn? f = some rest) :
    rest.length ≤ f.rest.length := by
  unfold goOn? at h
  split at h
  · obtain ⟨⟨argument, r⟩, ha, rfl⟩ := Option.map_eq_some_iff.1 h
    exact Nat.le_of_lt (length_of_argument? ha)
  · obtain rfl := Option.some.inj h
    exact Nat.le_refl _

def visitText (s : List Char) : List Visit := if s.isEmpty then [] else [.text s]

def visits (s : List Char) : List Visit :=
  match h : next? scanRules s with
  | none => visitText s
  | some (gap, f) =>
    visitText gap ++ visitOf f ::
      match hg : goOn? f with
      | none => []
      | some rest =>
        have := length_of_next? h
        have := length_of_goOn? hg
        visits rest
termination_by s.length

theorem visits_end {s : List Char} (h : next? scanRules s = none) : visits s = visitText s := by
  rw [visits]
  split
  · rfl
  · next hn =>
    rw [h] at hn
    cases hn

theorem visits_tag {s gap : List Char} {f : Found} (h : next? scanRules s = some (gap, f)) :
    visits s = visitText gap ++ visitOf f :: ((goOn? f).map visits).getD [] := by
  rw [visits]
  split
  · next hn =>
    rw [h] at hn
    cases hn
  · next hn =>
    rw [h] at hn
    obtain ⟨rfl, rfl⟩ := Prod.mk.inj (Option.some.inj hn)
    split
    · next hg => simp only [hg, Option.map_none, Option.getD_none]
    · next hg => simp only [hg, Option.map_some, Option.getD_some]

/-- A tag that is right by itself: its argument ends and is not empty, the argument of a loop has the
shape of one, and no word is glued to the tag of a last body. -/
def Visit.WellFormed : Visit → Prop
  | .text _ => True
  | .tag r picked argument =>
    (r.takesArgument → ∃ a ∈ argument, a ≠ []) ∧ (r = .loop → ∃ a ∈ argument, LoopShape a) ∧
      (r = .otherwise → picked = [])

/-- The sign that a visit is in the grammar. Includes are gone before a scan. -/
def Visit.sign : Visit → Sign
  | .text _ => .literal
  | .tag .inclusion .. | .tag .choice .. => .choice
  | .tag .echo .. => .echo
  | .tag .further .. => .further
  | .tag .otherwise .. => .otherwise
  | .tag .endChoice .. => .endChoice
  | .tag .loop .. => .loop
  | .tag .endLoop .. => .endLoop
  | .tag .comment .. => .comment

/-- What a visit stands for in a sequence of texts and tags; a comment stands for nothing. -/
def Visit.item? : Visit → Option Item
  | .text s => some (.text (String.ofList s))
  | .tag .echo picked _ => some (.mark (.echo (String.ofList picked)))
  | .tag .inclusion _ argument | .tag .choice _ argument =>
    argument.map fun a => .mark (.choice (String.ofList a))
  | .tag .further _ argument => argument.map fun a => .mark (.further (String.ofList a))
  | .tag .loop _ argument =>
    (argument.bind loopHead?).map fun head =>
      .mark (.loop (String.ofList head.iterable) (head.key.map String.ofList) (String.ofList head.value))
  | .tag .otherwise .. => some (.mark .otherwise)
  | .tag .endChoice .. => some (.mark .endChoice)
  | .tag .endLoop .. => some (.mark .endLoop)
  | .tag .comment .. => none

def Piece.sign? : Piece → Option Sign
  | .text _ => some .literal
  | .bad .. => none
  | .mark m _ =>
    match m with
    | .comment => some .comment
    | .echo _ => some .echo
    | .choice _ => some .choice
    | .further _ => some .further
    | .otherwise => some .otherwise
    | .endChoice => some .endChoice
    | .loop .. => some .loop
    | .endLoop => some .endLoop

structure Agree (ps : List Piece) (vs : List Visit) : Prop where
  signs : ps.mapM Piece.sign? = some (vs.map Visit.sign)
  items : ps.flatMap Piece.items = vs.filterMap Visit.item?

theorem Agree.nil : Agree [] [] := ⟨rfl, rfl⟩

theorem Agree.append {ps qs : List Piece} {vs us : List Visit} (h : Agree ps vs) (k : Agree qs us) :
    Agree (ps ++ qs) (vs ++ us) := by
  constructor
  · rw [List.mapM_append, h.signs, k.signs, List.map_append]
    rfl
  · rw [List.flatMap_append, List.filterMap_append, h.items, k.items]

theorem agree_text (s : List Char) : Agree (textPiece s) (visitText s) := by
  unfold textPiece visitText
  cases s with
  | nil => exact .nil
  | cons c s => exact ⟨rfl, rfl⟩

def ReadAs (result : Except TagFault Mark) (v : Visit) : Prop :=
  (∃ m, result = .ok m ∧ v.WellFormed ∧ ∀ line, Agree [.mark m line] [v]) ∨
    (∃ cause, result = .error cause ∧ ¬v.WellFormed)

theorem readAs_markWith {r : Rule} (hr : r.takesArgument = true) (picked argument : List Char) :
    ReadAs (markWith r argument) (.tag r picked (some argument)) := by
  unfold markWith
  by_cases he : argument = []
  · subst he
    refine .inr ⟨.emptyArgument r.name, rfl, ?_⟩
    rintro ⟨ha, -⟩
    obtain ⟨a, haeq, hne⟩ := ha hr
    obtain rfl := Option.some.inj haeq
    exact hne rfl
  · rw [if_neg (by simpa using he)]
    have harg : ∃ a ∈ some argument, a ≠ [] := ⟨argument, rfl, he⟩
    cases r with
    | inclusion | choice | further =>
      exact .inl ⟨_, rfl, ⟨fun _ => harg, nofun, nofun⟩, fun _ => ⟨rfl, rfl⟩⟩
    | loop =>
      simp only [loopMark]
      cases hl : loopHead? argument with
      | some head =>
        have hshape : LoopShape argument := loopHead?_isSome_iff.1 (by rw [hl]; rfl)
        refine .inl ⟨_, rfl, ⟨fun _ => harg, fun _ => ⟨argument, rfl, hshape⟩, nofun⟩, fun _ => ⟨rfl, ?_⟩⟩
        simp [Piece.items, Visit.item?, hl]
      | none =>
        refine .inr ⟨_, rfl, ?_⟩
        rintro ⟨-, hs, -⟩
        obtain ⟨a, haeq, hshape⟩ := hs rfl
        obtain rfl := Option.some.inj haeq
        rw [← loopHead?_isSome_iff, hl] at hshape
        cases hshape
    | echo | otherwise | endChoice | endLoop | comment => cases hr

theorem readAs_markAlone {r : Rule} (hr : r.takesArgument = false) (picked : List Char) :
    ReadAs (markAlone r picked) (.tag r picked none) := by
  cases r with
  | inclusion | choice | further | loop => cases hr
  | echo | endChoice | endLoop | comment =>
    exact .inl ⟨_, rfl, ⟨nofun, nofun, nofun⟩, fun _ => ⟨rfl, rfl⟩⟩
  | otherwise =>
    cases picked with
    | nil => exact .inl ⟨_, rfl, ⟨nofun, nofun, fun _ => rfl⟩, fun _ => ⟨rfl, rfl⟩⟩
    | cons c picked =>
      refine .inr ⟨_, rfl, ?_⟩
      rintro ⟨-, -, hp⟩
      cases hp rfl

theorem readMark_cases (f : Found) :
    (∃ m rest, readMark f = .ok (m, rest) ∧ goOn? f = some rest ∧ (visitOf f).WellFormed ∧
      ∀ line, Agree [.mark m line] [visitOf f]) ∨
    (∃ cause, readMark f = .error cause ∧ ¬(visitOf f).WellFormed) := by
  unfold readMark goOn? visitOf
  cases hr : f.rule.takesArgument with
  | false =>
    rcases readAs_markAlone hr f.picked with ⟨m, hm, hw, ha⟩ | ⟨cause, hm, hw⟩
    · exact .inl ⟨m, f.rest, by simp [hm, Except.map], rfl, hw, ha⟩
    · exact .inr ⟨cause, by simp [hm, Except.map], hw⟩
  | true =>
    cases harg : argument? f.rest with
    | none =>
      refine .inr ⟨_, rfl, ?_⟩
      rintro ⟨ha, -⟩
      obtain ⟨a, haeq, -⟩ := ha hr
      cases haeq
    | some pair =>
      obtain ⟨argument, rest⟩ := pair
      rcases readAs_markWith hr f.picked argument with ⟨m, hm, hw, ha⟩ | ⟨cause, hm, hw⟩
      · exact .inl ⟨m, rest, by simp [hm, Except.map], rfl, hw, ha⟩
      · exact .inr ⟨cause, by simp [hm, Except.map], hw⟩

theorem piecesFrom_end {template s : List Char} (h : next? scanRules s = none) :
    piecesFrom template s = textPiece s := by
  rw [piecesFrom]
  split
  · rfl
  · next hn =>
    rw [h] at hn
    cases hn

theorem piecesFrom_tag {template s gap : List Char} {f : Found}
    (h : next? scanRules s = some (gap, f)) :
    piecesFrom template s = textPiece gap ++
      match readMark f with
      | .error cause => [.bad cause (Text.lineAt template (s.drop gap.length))]
      | .ok (m, rest) =>
        .mark m (Text.lineAt template (s.drop gap.length)) :: piecesFrom template rest := by
  rw [piecesFrom]
  split
  · next hn =>
    rw [h] at hn
    cases hn
  · next hn =>
    rw [h] at hn
    obtain ⟨rfl, rfl⟩ := Prod.mk.inj (Option.some.inj hn)
    split
    · next hm => simp only [hm]
    · next hm => simp only [hm]

theorem piecesFrom_mark {template s gap rest : List Char} {f : Found} {m : Mark}
    (h : next? scanRules s = some (gap, f)) (hm : readMark f = .ok (m, rest)) :
    piecesFrom template s = textPiece gap ++
      .mark m (Text.lineAt template (s.drop gap.length)) :: piecesFrom template rest := by
  rw [piecesFrom_tag h, hm]

theorem wellFormed_of_mem_visitText {s : List Char} {v : Visit} (h : v ∈ visitText s) : v.WellFormed := by
  unfold visitText at h
  split at h
  · cases h
  · obtain rfl := List.mem_singleton.1 h
    trivial

theorem pieces_cases (template s : List Char) :
    ((∀ v ∈ visits s, v.WellFormed) ∧ Agree (piecesFrom template s) (visits s)) ∨
    ((∃ v ∈ visits s, ¬v.WellFormed) ∧ ∃ cause line, .bad cause line ∈ piecesFrom template s) := by
  induction hlen : s.length using Nat.strongRecOn generalizing s with
  | ind n ih =>
    cases hnext : next? scanRules s with
    | none =>
      rw [piecesFrom_end hnext, visits_end hnext]
      exact .inl ⟨fun v hv => wellFormed_of_mem_visitText hv, agree_text s⟩
    | some pair =>
      obtain ⟨gap, f⟩ := pair
      rw [piecesFrom_tag hnext, visits_tag hnext]
      rcases readMark_cases f with ⟨m, rest, hm, hg, hw, ha⟩ | ⟨cause, hm, hw⟩
      · have hlt : rest.length < n := by
          have := length_of_next? hnext
          have := length_of_goOn? hg
          omega
        rw [hm, hg]
        dsimp only [Option.map_some, Option.getD_some]
        rcases ih rest.length hlt rest rfl with ⟨hall, hagree⟩ | ⟨⟨v, hv, hbad⟩, bad, line, hmem⟩
        · refine .inl ⟨?_, (agree_text gap).append ((ha _).append hagree)⟩
          intro v hv
          rcases List.mem_append.1 hv with hv | hv
          · exact wellFormed_of_mem_visitText hv
          · rcases List.mem_cons.1 hv with rfl | hv
            · exact hw
            · exact hall v hv
        · refine .inr ⟨⟨v, ?_, hbad⟩, bad, line, ?_⟩
          · exact List.mem_append_right _ (List.mem_cons_of_mem _ hv)
          · exact List.mem_append_right _ (List.mem_cons_of_mem _ hmem)
      · rw [hm]
        refine .inr ⟨⟨visitOf f, ?_, hw⟩, cause, Text.lineAt template (s.drop gap.length), ?_⟩
        · exact List.mem_append_right _ List.mem_cons_self
        · exact List.mem_append_right _ List.mem_cons_self

end Stencil.Template
