import Stencil.Proofs.Tag.Picked
import Stencil.Proofs.Template.Parse
import Stencil.Proofs.Template.Printer
/-!
# Trees of templates are tidy

No body that is read has an empty text or two texts side by side, no choice is without arms, and every
expression can be read again. A choice has a last body just when the tag of one stands between its own tags.
-/

namespace Stencil.Template

open Text Tag

mutual

/-- An instruction as it is read: its fields are what tags can have, and its bodies are tidy. -/
def Tidy : Instruction String → Prop
  | .literal s => s ≠ ""
  | .echo expr => EchoRead expr.toList
  | .choose arms none => arms ≠ [] ∧ TidyArms arms
  | .choose arms (some body) => arms ≠ [] ∧ TidyArms arms ∧ TidyAll body
  | .loop iterable key value body =>
    ArgumentRead iterable.toList ∧ (∀ k ∈ key, IsName k.toList) ∧ IsName value.toList ∧ TidyAll body
  | .stray _ => False

def TidyArms : List (Arm String) → Prop
  | [] => True
  | .mk cond body :: rest => ArgumentRead cond.toList ∧ TidyAll body ∧ TidyArms rest

/-- Tidy instructions, of which no two that are texts stand side by side. -/
def TidyAll : List (Instruction String) → Prop
  | [] => True
  | i :: rest => Tidy i ∧ Apart i rest.head? ∧ TidyAll rest

end

theorem tidyAll_concat {body : Body} {i : Instruction String} :
    TidyAll (body ++ [i]) ↔ TidyAll body ∧ (∀ j ∈ body.getLast?, Apart j (some i)) ∧ Tidy i := by
  induction body with
  | nil =>
    constructor
    · intro h
      exact ⟨trivial, nofun, h.1⟩
    · intro h
      exact ⟨h.2.2, fun _ => nofun, trivial⟩
  | cons j rest ih =>
    rw [List.cons_append, TidyAll, TidyAll, ih]
    cases rest with
    | nil =>
      constructor
      · rintro ⟨hj, hapart, -, -, hi⟩
        refine ⟨⟨hj, fun _ => nofun, trivial⟩, ?_, hi⟩
        intro k hk
        obtain rfl := Option.some.inj hk
        exact hapart
      · rintro ⟨⟨hj, -, -⟩, hapart, hi⟩
        exact ⟨hj, hapart j rfl, trivial, nofun, hi⟩
    | cons k rest =>
      rw [List.getLast?_cons_cons]
      constructor
      · rintro ⟨hj, hapart, hrest, hlast, hi⟩
        exact ⟨⟨hj, hapart, hrest⟩, hlast, hi⟩
      · rintro ⟨⟨hj, hapart, hrest⟩, hlast, hi⟩
        exact ⟨hj, hapart, hrest, hlast, hi⟩

theorem tidyArms_concat {arms : List (Arm String)} {cond : String} {body : Body} (ha : TidyArms arms)
    (hc : ArgumentRead cond.toList) (hb : TidyAll body) : TidyArms (arms ++ [.mk cond body]) := by
  induction arms with
  | nil => exact ⟨hc, hb, trivial⟩
  | cons arm rest ih =>
    obtain ⟨c, b⟩ := arm
    exact ⟨ha.1, ha.2.1, ih ha.2.2⟩

theorem tidy_of_mem {body : Body} {i : Instruction String} (h : TidyAll body) (hi : i ∈ body) : Tidy i := by
  induction body with
  | nil => cases hi
  | cons j rest ih =>
    rcases List.mem_cons.1 hi with rfl | hi
    · exact h.1
    · exact ih h.2.2 hi

theorem tidy_of_mem_arms {arms : List (Arm String)} {cond : String} {body : Body} (h : TidyArms arms)
    (ha : .mk cond body ∈ arms) : TidyAll body := by
  induction arms with
  | nil => cases ha
  | cons arm rest ih =>
    obtain ⟨c, b⟩ := arm
    rcases List.mem_cons.1 ha with heq | ha
    · cases heq
      exact h.2.1
    · exact ih h.2.2 ha

def Mark.Tidy : Mark → Prop
  | .echo expr => EchoRead expr.toList
  | .choice cond | .further cond => ArgumentRead cond.toList
  | .loop iterable key value =>
    ArgumentRead iterable.toList ∧ (∀ k ∈ key, IsName k.toList) ∧ IsName value.toList
  | .comment | .otherwise | .endChoice | .endLoop => True

def Piece.Tidy : Piece → Prop
  | .text t => t ≠ []
  | .mark m _ => m.Tidy
  | .bad .. => True

theorem tidy_markWith {r : Rule} {argument : List Char} {m : Mark}
    (ha : argument ≠ [] → ArgumentRead argument) (h : markWith r argument = .ok m) : m.Tidy := by
  unfold markWith at h
  split at h
  · cases h
  · next hempty =>
    have hread := ha (by simpa using hempty)
    have hargument : ArgumentRead (String.ofList argument).toList := by
      rwa [String.toList_ofList]
    split at h
    · unfold loopMark at h
      split at h
      · next head hl =>
        obtain rfl := Except.ok.inj h
        obtain ⟨hi, hk, hv⟩ := loopHead?_read hread hl
        refine ⟨by rwa [String.toList_ofList], ?_, by rwa [String.toList_ofList]⟩
        intro k hmem
        obtain ⟨name, hname, rfl⟩ := Option.map_eq_some_iff.1 hmem
        rw [String.toList_ofList]
        exact hk name hname
      · cases h
    · obtain rfl := Except.ok.inj h
      exact hargument
    · obtain rfl := Except.ok.inj h
      exact hargument

theorem tidy_markAlone {r : Rule} {picked : List Char} {m : Mark} (he : r = .echo → EchoRead picked)
    (h : markAlone r picked = .ok m) : m.Tidy := by
  unfold markAlone at h
  split at h
  · obtain rfl := Except.ok.inj h
    show EchoRead (String.ofList picked).toList
    rw [String.toList_ofList]
    exact he rfl
  · split at h
    · obtain rfl := Except.ok.inj h
      trivial
    · cases h
  all_goals
    obtain rfl := Except.ok.inj h
    trivial

theorem tidy_readMark {s gap rest : List Char} {f : Found} {m : Mark} (hf : next? scanRules s = some (gap, f))
    (h : readMark f = .ok (m, rest)) : m.Tidy := by
  have of_map {e : Except TagFault Mark} {r : List Char} (he : e.map (·, r) = .ok (m, rest)) : e = .ok m := by
    cases e with
    | error cause => cases he
    | ok k => exact congrArg Except.ok (Prod.mk.inj (Except.ok.inj he)).1
  unfold readMark at h
  split at h
  · split at h
    · next argument after ha =>
      obtain ⟨raw, hraw, rfl⟩ := balanced_of_argument? ha
      exact tidy_markWith (argumentRead_of_balanced hraw) (of_map h)
    · cases h
  · refine tidy_markAlone (fun hr => ?_) (of_map h)
    obtain ⟨tail, -, hfirst⟩ := next?_split hf
    obtain ⟨t, -, he⟩ := echo_of_match? hr (match?_of_first? hfirst)
    exact echoRead_of_echoAfter? he

theorem tidy_textPiece {s : List Char} {p : Piece} (h : p ∈ textPiece s) : p.Tidy := by
  unfold textPiece at h
  split at h
  · cases h
  · next hs =>
    obtain rfl := List.mem_singleton.1 h
    exact fun hnil => hs (List.isEmpty_iff.2 hnil)

theorem tidy_piecesFrom (template s : List Char) : ∀ p ∈ piecesFrom template s, p.Tidy := by
  induction hlen : s.length using Nat.strongRecOn generalizing s with
  | ind n ih =>
    intro p hp
    cases hnext : next? scanRules s with
    | none =>
      rw [piecesFrom_end hnext] at hp
      exact tidy_textPiece hp
    | some pair =>
      obtain ⟨gap, f⟩ := pair
      rw [piecesFrom_tag hnext] at hp
      rcases List.mem_append.1 hp with hp | hp
      · exact tidy_textPiece hp
      · cases hm : readMark f with
        | error cause =>
          rw [hm] at hp
          obtain rfl := List.mem_singleton.1 hp
          trivial
        | ok found =>
          obtain ⟨m, rest⟩ := found
          rw [hm] at hp
          rcases List.mem_cons.1 hp with rfl | hp
          · exact tidy_readMark hnext hm
          · have hlt : rest.length < n := by
              have := length_of_next? hnext
              have := length_of_readMark hm
              omega
            exact ih rest.length hlt rest rfl p hp

def Head.Tidy : Head → Prop
  | .arm before cond => TidyArms before ∧ ArgumentRead cond.toList
  | .last arms => arms ≠ [] ∧ TidyArms arms
  | .loop iterable key value =>
    ArgumentRead iterable.toList ∧ (∀ k ∈ key, IsName k.toList) ∧ IsName value.toList

theorem tidy_close {head : Head} {body : Body} (hh : head.Tidy) (hb : TidyAll body) :
    Template.Tidy (head.close body) := by
  cases head with
  | arm before cond => exact ⟨List.concat_ne_nil _ _, tidyArms_concat hh.1 hh.2 hb⟩
  | last arms => exact ⟨hh.1, hh.2, hb⟩
  | loop iterable key value => exact ⟨hh.1, hh.2.1, hh.2.2, hb⟩

theorem tidy_push {body : Body} {i : Instruction String} (hb : TidyAll body.reverse) (hi : Tidy i)
    (hl : isLiteral i = false) : TidyAll (i :: body).reverse := by
  rw [List.reverse_cons]
  refine tidyAll_concat.2 ⟨hb, ?_, hi⟩
  intro j _ _ k hk
  obtain rfl := Option.some.inj hk
  exact hl

theorem tidy_addText {body : Body} {t : String} (ht : t ≠ "") (hb : TidyAll body.reverse) :
    TidyAll (addText t body).reverse := by
  unfold addText
  split
  · next before rest =>
    rw [List.reverse_cons] at hb ⊢
    obtain ⟨hrest, hapart, hbefore⟩ := tidyAll_concat.1 hb
    refine tidyAll_concat.2 ⟨hrest, ?_, ?_⟩
    · intro j hj hl k hk
      have := hapart j hj hl _ rfl
      cases this
    · intro hempty
      exact ht (String.append_eq_empty_iff.1 hempty).2
  · next hbody =>
    rw [List.reverse_cons]
    refine tidyAll_concat.2 ⟨hb, ?_, ht⟩
    intro j hj hl
    rw [List.getLast?_reverse] at hj
    cases body with
    | nil => cases hj
    | cons i rest =>
      obtain rfl := Option.some.inj hj
      cases i with
      | literal before => exact absurd rfl (hbody before rest)
      | _ => cases hl

theorem kept_tidy : Kept Piece.Tidy Head.Tidy (TidyAll ·.reverse) where
  empty := trivial
  text ht hb := tidy_addText (mt String.ofList_eq_empty_iff.1 ht) hb
  echo he hb := tidy_push hb he rfl
  choice hc := ⟨trivial, hc⟩
  loop hl := hl
  further hc hh hb := ⟨tidyArms_concat hh.1 hh.2 hb, hc⟩
  otherwise hh hb := ⟨by simp, tidyArms_concat hh.1 hh.2 hb⟩
  close hh hb ha := by
    rename_i head body around
    refine tidy_push ha (tidy_close hh hb) ?_
    cases head <;> rfl

theorem tidy_tree {ps : List Piece} {body : Body} (hps : ∀ p ∈ ps, p.Tidy) (h : tree ps = .ok body) :
    TidyAll body := by
  rw [← body.reverse_reverse]
  exact kept_tidy.tree hps h

/-- An instruction stands in a body, perhaps in a block within it. -/
inductive Occurs (i : Instruction String) : Body → Prop where
  | here {body : Body} : i ∈ body → Occurs i body
  | arm {body inner : Body} {arms : List (Arm String)} {last : Option Body} {cond : String} :
      .choose arms last ∈ body → .mk cond inner ∈ arms → Occurs i inner → Occurs i body
  | last {body inner : Body} {arms : List (Arm String)} : .choose arms (some inner) ∈ body →
      Occurs i inner → Occurs i body
  | loop {body inner : Body} {iterable value : String} {key : Option String} :
      .loop iterable key value inner ∈ body → Occurs i inner → Occurs i body

theorem Occurs.tidy {i : Instruction String} {body : Body} (h : Occurs i body) (hb : TidyAll body) : Tidy i := by
  induction h with
  | here hi => exact tidy_of_mem hb hi
  | @arm _ _ _ last _ hc ha _ ih =>
    have hchoice := tidy_of_mem hb hc
    cases last with
    | none => exact ih (tidy_of_mem_arms hchoice.2 ha)
    | some inner => exact ih (tidy_of_mem_arms hchoice.2.1 ha)
  | last hc _ ih => exact ih (tidy_of_mem hb hc).2.2
  | loop hl _ ih => exact ih (tidy_of_mem hb hl).2.2.2

theorem part_of_mem {body : Body} {i : Instruction String} (h : i ∈ body) : linear i <:+: linearAll body := by
  obtain ⟨front, back, rfl⟩ := List.append_of_mem h
  rw [linearAll_append, linearAll, ← List.append_assoc]
  exact List.infix_append _ _ _

theorem part_of_mem_arms {arms : List (Arm String)} {cond : String} {inner : Body} (h : .mk cond inner ∈ arms)
    (word : String → Mark) : linearAll inner <:+: linearArms word arms := by
  induction arms generalizing word with
  | nil => cases h
  | cons arm rest ih =>
    rw [linearArms]
    rcases List.mem_cons.1 h with rfl | h
    · exact List.infix_append [.mark (word cond)] (linearAll inner) _
    · exact (ih h .further).trans (List.suffix_append _ _).isInfix

theorem part_of_choose (arms : List (Arm String)) (last : Option Body) :
    linearArms .choice arms <:+: linear (.choose arms last) := by
  cases last with
  | none => exact (List.prefix_append _ _).isInfix
  | some inner =>
    rw [linear]
    exact (List.prefix_append _ _).isInfix

theorem Occurs.part {i : Instruction String} {body : Body} (h : Occurs i body) :
    linear i <:+: linearAll body := by
  induction h with
  | here hi => exact part_of_mem hi
  | @arm _ _ arms last _ hc ha _ ih =>
    have hchoice := (part_of_mem_arms ha .choice).trans (part_of_choose arms last)
    exact ih.trans (hchoice.trans (part_of_mem hc))
  | @last _ inner arms hc _ ih =>
    have hlast : linearAll inner <:+: linear (.choose arms (some inner)) := by
      rw [linear, List.append_cons, ← List.append_assoc]
      exact List.infix_append _ _ _
    exact ih.trans (hlast.trans (part_of_mem hc))
  | @loop _ inner iterable value key hl _ ih =>
    have hbody : linearAll inner <:+: linear (.loop iterable key value inner) := by
      rw [linear]
      exact List.infix_append [Item.mark (.loop iterable key value)] _ _
    exact ih.trans (hbody.trans (part_of_mem hl))

/-- Whether the tag of a last body stands where just one block is open, when `depth` blocks are open before the
sequence. -/
def ownElse : Nat → List Item → Bool
  | _, [] => false
  | depth, .text _ :: rest => ownElse depth rest
  | depth, .mark m :: rest =>
    match m with
    | .choice _ | .loop .. => ownElse (depth + 1) rest
    | .endChoice | .endLoop => ownElse (depth - 1) rest
    | .otherwise => depth == 1 || ownElse depth rest
    | .comment | .echo _ | .further _ => ownElse depth rest

mutual

theorem ownElse_linear : ∀ i : Instruction String, Tidy i → ∀ (depth : Nat) (w : List Item),
    ownElse (depth + 1) (linear i ++ w) = ownElse (depth + 1) w
  | .literal _, _, _, _ => rfl
  | .echo _, _, _, _ => rfl
  | .choose arms none, h, depth, w => by
    rw [linear, List.append_assoc, ownElse_choiceArms arms h.2 h.1]
    rfl
  | .choose arms (some last), h, depth, w => by
    rw [linear, List.append_assoc, ownElse_choiceArms arms h.2.1 h.1, List.cons_append, List.append_assoc]
    show ownElse (depth + 1 + 1) (linearAll last ++ _) = _
    rw [ownElse_linearAll last h.2.2]
    rfl
  | .loop iterable key value body, h, depth, w => by
    simp only [linear, List.append_assoc, List.cons_append, ownElse]
    rw [ownElse_linearAll body h.2.2.2]
    rfl
  | .stray _, h, _, _ => h.elim

theorem ownElse_choiceArms : ∀ arms : List (Arm String), TidyArms arms → arms ≠ [] →
    ∀ (depth : Nat) (w : List Item), ownElse depth (linearArms .choice arms ++ w) = ownElse (depth + 1) w
  | [], _, hne, _, _ => absurd rfl hne
  | .mk cond body :: arms, h, _, depth, w => by
    simp only [linearArms, linearArm, List.append_assoc, List.cons_append, ownElse]
    rw [ownElse_linearAll body h.2.1, ownElse_linearArms arms h.2.2]

theorem ownElse_linearArms : ∀ arms : List (Arm String), TidyArms arms → ∀ (depth : Nat) (w : List Item),
    ownElse (depth + 1) (linearArms .further arms ++ w) = ownElse (depth + 1) w
  | [], _, _, _ => rfl
  | .mk cond body :: arms, h, depth, w => by
    simp only [linearArms, linearArm, List.append_assoc, List.cons_append, ownElse]
    rw [ownElse_linearAll body h.2.1, ownElse_linearArms arms h.2.2]

theorem ownElse_linearAll : ∀ body : List (Instruction String), TidyAll body → ∀ (depth : Nat) (w : List Item),
    ownElse (depth + 1) (linearAll body ++ w) = ownElse (depth + 1) w
  | [], _, _, _ => rfl
  | i :: rest, h, depth, w => by
    rw [linearAll, List.append_assoc, ownElse_linear i h.1, ownElse_linearAll rest h.2.2]

end

theorem ownElse_choose {arms : List (Arm String)} {last : Option Body} (h : Tidy (.choose arms last)) :
    ownElse 0 (linear (.choose arms last)) = last.isSome := by
  cases last with
  | none =>
    rw [linear, ownElse_choiceArms arms h.2 h.1]
    rfl
  | some last =>
    rw [linear, ownElse_choiceArms arms h.2.1 h.1]
    rfl

/-- The tree of a template is tidy, whatever its includes are resolved with, and stands for the texts and tags that
a scan of the template meets. Each choice in it stands for a part of these, and has no last body just when that
part has no tag of one outside the blocks within it. -/
theorem parseText_tidy {resolve : Resolver} {text : String} {body : Body}
    (h : parseText resolve text = .ok body) :
    TidyAll body ∧ ∃ x, expand resolve text.toList = .ok x ∧
      linearAll body = joined ((visits x).filterMap Visit.item?) ∧
      ∀ arms last, Occurs (.choose arms last) body →
        linear (.choose arms last) <:+: linearAll body ∧
          (last = none ↔ ownElse 0 (linear (.choose arms last)) = false) := by
  obtain ⟨x, hx, hparse⟩ := exists_of_bind_ok h
  have htidy : TidyAll body := tidy_tree (tidy_piecesFrom x x) hparse
  refine ⟨htidy, x, hx, linear_parse hparse, ?_⟩
  intro arms last hoccurs
  rw [ownElse_choose (hoccurs.tidy htidy), Option.isSome_eq_false_iff, Option.isNone_iff_eq_none]
  exact ⟨hoccurs.part, Iff.rfl⟩

theorem parseText_tidy_sample :
    let text := "@if( x )a@else\x7b\x7b\n y \x7d\x7d@endif"
    let body : Body := [.choose [.mk "x" [.literal "a"]] (some [.echo "y"])]
    parseText none text = .ok body ∧ TidyAll body ∧ ∃ x, expand (none : Resolver) text.toList = .ok x ∧
      linearAll body = joined ((visits x).filterMap Visit.item?) ∧ ownElse 0 (linearAll body) = true := by
  intro text body
  have hparse : parseText none text = .ok body := by
    have hplain : expand (none : Resolver) text.toList = .ok text.toList := expand_plain (by decide)
    have h1 : next? scanRules text.toList =
      some ([], ⟨.choice, [], " x )a@else\x7b\x7b\n y \x7d\x7d@endif".toList⟩) := by decide
    have h2 : next? scanRules "a@else\x7b\x7b\n y \x7d\x7d@endif".toList =
      some (['a'], ⟨.otherwise, [], "\x7b\x7b\n y \x7d\x7d@endif".toList⟩) := by decide
    have h3 : next? scanRules "\x7b\x7b\n y \x7d\x7d@endif".toList =
      some ([], ⟨.echo, ['y'], "@endif".toList⟩) := by decide
    have h4 : next? scanRules "@endif".toList = some ([], ⟨.endChoice, [], []⟩) := by decide
    have m1 : readMark ⟨.choice, [], " x )a@else\x7b\x7b\n y \x7d\x7d@endif".toList⟩ =
      .ok (.choice "x", "a@else\x7b\x7b\n y \x7d\x7d@endif".toList) := rfl
    have m2 : readMark ⟨.otherwise, [], "\x7b\x7b\n y \x7d\x7d@endif".toList⟩ =
      .ok (.otherwise, "\x7b\x7b\n y \x7d\x7d@endif".toList) := rfl
    have m3 : readMark ⟨.echo, ['y'], "@endif".toList⟩ = .ok (.echo "y", "@endif".toList) := rfl
    have m4 : readMark ⟨.endChoice, [], []⟩ = .ok (.endChoice, []) := rfl
    rw [parseText_of_expand hplain, parse, pieces, piecesFrom_mark h1 m1, piecesFrom_mark h2 m2,
      piecesFrom_mark h3 m3, piecesFrom_mark h4 m4, piecesFrom_end rfl]
    rfl
  obtain ⟨htidy, x, hx, hscan, -⟩ := parseText_tidy hparse
  exact ⟨hparse, htidy, x, hx, hscan, rfl⟩

end Stencil.Template
