import Stencil.Proofs.Template.Tree
/-!
# Trees as sequences

A tree is written out as the sequence of its texts and tags, and so is what the parser has read of one. A
step of the parser adds one thing to the end of that sequence, and a text joins the text before it.
-/

namespace Stencil.Template

inductive Item where
  | text (s : String)
  | mark (m : Mark)
deriving Repr, DecidableEq

mutual

/-- The texts and tags of an instruction, in order. -/
def linear : Instruction String → List Item
  | .literal s => [.text s]
  | .echo expr => [.mark (.echo expr)]
  | .choose arms none => linearArms .choice arms ++ [.mark .endChoice]
  | .choose arms (some body) =>
    linearArms .choice arms ++ .mark .otherwise :: (linearAll body ++ [.mark .endChoice])
  | .loop iterable key value body =>
    .mark (.loop iterable key value) :: (linearAll body ++ [.mark .endLoop])
  | .stray arm => linearArm .further arm ++ [.mark .endChoice]

def linearArm (word : String → Mark) : Arm String → List Item
  | .mk cond body => .mark (word cond) :: linearAll body

/-- The texts and tags of arms, of which the first begins with a tag and the others go on. -/
def linearArms (word : String → Mark) : List (Arm String) → List Item
  | [] => []
  | arm :: rest => linearArm word arm ++ linearArms .further rest

/-- The texts and tags of instructions. -/
def linearAll : List (Instruction String) → List Item
  | [] => []
  | i :: rest => linear i ++ linearAll rest

end

@[simp] theorem linearAll_append (a b : Body) : linearAll (a ++ b) = linearAll a ++ linearAll b := by
  induction a with
  | nil => rfl
  | cons i rest ih => rw [List.cons_append, linearAll, linearAll, ih, List.append_assoc]

theorem linearAll_reverse_cons (i : Instruction String) (rest : Body) :
    linearAll (i :: rest).reverse = linearAll rest.reverse ++ linear i := by
  rw [List.reverse_cons, linearAll_append, linearAll, linearAll, List.append_nil]

theorem linearArms_concat (word : String → Mark) (before : List (Arm String)) (cond : String)
    (body : Body) :
    linearArms word (before ++ [.mk cond body]) =
      linearArms word before ++
        .mark ((if before.isEmpty then word else .further) cond) :: linearAll body := by
  induction before generalizing word with
  | nil => simp [linearArms, linearArm]
  | cons arm rest ih =>
    rw [List.cons_append, linearArms, linearArms, ih, List.append_assoc]
    cases rest <;> rfl

/-- The texts and tags of a block up to the body that is being read. -/
def Head.linear : Head → List Item
  | .arm before cond => linearArms .choice (before ++ [.mk cond []])
  | .last arms => linearArms .choice arms ++ [.mark .otherwise]
  | .loop iterable key value => [.mark (.loop iterable key value)]

def linearBlocks : List Open → List Item
  | [] => []
  | block :: blocks => linearBlocks blocks ++ (linearAll block.around.reverse ++ block.head.linear)

/-- All texts and tags that are read so far. -/
def State.linear (s : State) : List Item := linearBlocks s.blocks ++ linearAll s.body.reverse

theorem linearArms_complete (before : List (Arm String)) (cond : String) (body : Body) :
    linearArms .choice (before ++ [.mk cond body]) =
      (Head.arm before cond).linear ++ linearAll body := by
  rw [Head.linear, linearArms_concat, linearArms_concat, linearAll, List.append_assoc]
  rfl

def closer : BlockKind → Mark
  | .choice => .endChoice
  | .loop => .endLoop

theorem linear_close (head : Head) (body : Body) :
    Template.linear (head.close body) = head.linear ++ (linearAll body ++ [.mark (closer head.kind)]) := by
  cases head with
  | arm before cond =>
    rw [Head.close, Template.linear, linearArms_complete, List.append_assoc]
    rfl
  | last arms =>
    rw [Head.close, Template.linear, Head.linear, List.append_assoc]
    rfl
  | loop iterable key value =>
    rw [Head.close, Template.linear]
    rfl

/-- A sequence whose neighbouring texts are joined. -/
def joined : List Item → List Item
  | [] => []
  | .mark m :: rest => .mark m :: joined rest
  | .text s :: rest =>
    match joined rest with
    | .text t :: more => .text (s ++ t) :: more
    | more => .text s :: more

def pushText (t : String) : List Item → List Item
  | [] => [.text t]
  | [.text s] => [.text (s ++ t)]
  | [.mark m] => [.mark m, .text t]
  | item :: next :: rest => item :: pushText t (next :: rest)

theorem pushText_text (w : List Item) (s t : String) :
    pushText t (w ++ [.text s]) = w ++ [.text (s ++ t)] := by
  induction w with
  | nil => rfl
  | cons item rest ih =>
    cases rest with
    | nil => cases item <;> rfl
    | cons next rest => cases item <;> exact congrArg (List.cons _) ih

theorem pushText_mark (w : List Item) (m : Mark) (t : String) :
    pushText t (w ++ [.mark m]) = w ++ [.mark m] ++ [.text t] := by
  induction w with
  | nil => rfl
  | cons item rest ih =>
    cases rest with
    | nil => cases item <;> rfl
    | cons next rest => cases item <;> exact congrArg (List.cons _) ih

theorem joined_concat_mark (w : List Item) (m : Mark) :
    joined (w ++ [.mark m]) = joined w ++ [.mark m] := by
  induction w with
  | nil => rfl
  | cons item rest ih =>
    cases item with
    | mark k => rw [List.cons_append, joined, ih, joined, List.cons_append]
    | text s =>
      rw [List.cons_append, joined, ih, joined]
      rcases joined rest with _ | ⟨_ | _, more⟩ <;> rfl

theorem joined_concat_text (w : List Item) (t : String) :
    joined (w ++ [.text t]) = pushText t (joined w) := by
  induction w with
  | nil => rfl
  | cons item rest ih =>
    cases item with
    | mark k =>
      rw [List.cons_append, joined, ih, joined]
      cases joined rest <;> rfl
    | text s =>
      rw [List.cons_append, joined, ih, joined]
      rcases joined rest with _ | ⟨u | k, _ | ⟨next, more⟩⟩
      · rfl
      · exact congrArg (fun v => [Item.text v]) String.append_assoc.symm
      · rfl
      · rfl
      · rfl

theorem linear_cases (i : Instruction String) :
    (∃ s, i = .literal s) ∨ ∃ w m, linear i = w ++ [.mark m] := by
  cases i with
  | literal s => exact .inl ⟨s, rfl⟩
  | echo expr => exact .inr ⟨[], .echo expr, rfl⟩
  | choose arms otherwise =>
    cases otherwise with
    | none => exact .inr ⟨linearArms .choice arms, .endChoice, rfl⟩
    | some body =>
      refine .inr ⟨linearArms .choice arms ++ .mark .otherwise :: linearAll body, .endChoice, ?_⟩
      rw [linear, List.append_assoc]
      rfl
  | loop iterable key value body =>
    exact .inr ⟨.mark (.loop iterable key value) :: linearAll body, .endLoop, rfl⟩
  | stray arm => exact .inr ⟨linearArm .further arm, .endChoice, rfl⟩

theorem Head.linear_cases (head : Head) : ∃ w m, head.linear = w ++ [.mark m] := by
  cases head with
  | arm before cond => exact ⟨linearArms .choice before, _, linearArms_concat .choice before cond []⟩
  | last arms => exact ⟨linearArms .choice arms, .otherwise, rfl⟩
  | loop iterable key value => exact ⟨[], _, rfl⟩

theorem linear_addText (s : State) (t : String) :
    State.linear ⟨addText t s.body, s.blocks⟩ = pushText t s.linear := by
  obtain ⟨body, blocks⟩ := s
  cases body with
  | nil =>
    simp only [addText, State.linear, List.reverse_nil, List.reverse_cons, List.nil_append, linearAll,
      List.append_nil]
    cases blocks with
    | nil => rfl
    | cons block blocks =>
      obtain ⟨w, m, hw⟩ := block.head.linear_cases
      rw [linearBlocks, hw, ← List.append_assoc, ← List.append_assoc, pushText_mark]
      rfl
  | cons i rest =>
    rcases linear_cases i with ⟨u, rfl⟩ | ⟨w, m, hw⟩
    · simp only [addText, State.linear, linearAll_reverse_cons, linear, ← List.append_assoc,
        pushText_text]
    · have hadd : addText t (i :: rest) = .literal t :: i :: rest := by
        cases i with
        | literal u => cases w <;> simp [linear] at hw
        | _ => rfl
      simp only [hadd, State.linear, linearAll_reverse_cons, hw, linear, ← List.append_assoc,
        pushText_mark]

/-- What a piece adds to a sequence; comments add nothing. -/
def Piece.items : Piece → List Item
  | .text t => [.text (String.ofList t)]
  | .mark .comment _ => []
  | .mark m _ => [.mark m]
  | .bad .. => []

theorem linear_enter (s : State) (head : Head) (line : Nat) :
    (s.enter head line).linear = s.linear ++ head.linear := by
  simp only [State.enter, State.linear, linearBlocks, List.reverse_nil, linearAll, List.append_nil,
    List.append_assoc]

theorem linear_turn {s s' : State} {tag : ArmTag} {line : Nat} {next : List (Arm String) → Head} {m : Mark}
    (hnext : ∀ before cond body, (next (before ++ [.mk cond body])).linear =
      linearArms .choice (before ++ [.mk cond body]) ++ [.mark m])
    (h : s.turn tag line next = .ok s') : s'.linear = s.linear ++ [.mark m] := by
  obtain ⟨before, cond, opened, around, blocks, hb, rfl⟩ := State.turn_ok h
  simp only [State.linear, hb, linearBlocks, hnext, linearArms_complete, List.reverse_nil, linearAll,
    List.append_nil, List.append_assoc]

theorem linear_State_close {s s' : State} {kind : BlockKind} {line : Nat} (h : s.close kind line = .ok s') :
    s'.linear = s.linear ++ [.mark (closer kind)] := by
  obtain ⟨head, opened, around, blocks, hb, hk, rfl⟩ := State.close_ok h
  simp only [State.linear, hb, linearBlocks, linearAll_reverse_cons, linear_close, hk, List.append_assoc]

theorem linear_step {s s' : State} {p : Piece} {w : List Item} (h : s.step p = .ok s')
    (hw : s.linear = joined w) : s'.linear = joined (w ++ p.items) := by
  cases p with
  | text t =>
    obtain rfl := Except.ok.inj h
    rw [linear_addText, hw, Piece.items, joined_concat_text]
  | bad cause line => cases h
  | mark m line =>
    cases m with
    | comment =>
      obtain rfl := Except.ok.inj h
      rw [Piece.items, List.append_nil, hw]
    | echo expr =>
      obtain rfl := Except.ok.inj h
      change _ = joined (w ++ [.mark (.echo expr)])
      rw [joined_concat_mark, ← hw, State.linear, linearAll_reverse_cons, ← List.append_assoc]
      rfl
    | choice cond =>
      obtain rfl := Except.ok.inj h
      change _ = joined (w ++ [.mark (.choice cond)])
      rw [joined_concat_mark, ← hw, linear_enter]
      rfl
    | loop iterable key value =>
      obtain rfl := Except.ok.inj h
      change _ = joined (w ++ [.mark (.loop iterable key value)])
      rw [joined_concat_mark, ← hw, linear_enter]
      rfl
    | further cond =>
      change s.turn .further line (fun before => .arm before cond) = .ok s' at h
      change _ = joined (w ++ [.mark (.further cond)])
      rw [joined_concat_mark, ← hw]
      refine linear_turn (fun before c body => ?_) h
      rw [Head.linear, linearArms_concat, linearAll]
      cases before <;> rfl
    | otherwise =>
      change _ = joined (w ++ [.mark .otherwise])
      rw [joined_concat_mark, ← hw]
      exact linear_turn (fun _ _ _ => rfl) h
    | endChoice =>
      change _ = joined (w ++ [.mark (closer .choice)])
      rw [joined_concat_mark, ← hw]
      exact linear_State_close h
    | endLoop =>
      change _ = joined (w ++ [.mark (closer .loop)])
      rw [joined_concat_mark, ← hw]
      exact linear_State_close h

theorem linear_tree {ps : List Piece} {body : Body} (h : tree ps = .ok body) :
    linearAll body = joined (ps.flatMap Piece.items) := by
  have hall := tree_induction (P := fun ps s => s.linear = joined (ps.flatMap Piece.items)) rfl
    (fun ps p s s' hs hp => by
      rw [List.flatMap_append, List.flatMap_singleton]
      exact linear_step hp hs) h
  rwa [State.linear, List.reverse_reverse] at hall

end Stencil.Template
