import Stencil.Proofs.Tag.Found
import Stencil.Proofs.Template.Seam
/-!
# Templates side by side

Two templates are read one after the other when the tags of the whole text are those of the first and then
those of the second. The second is read above what the first has left, so the two trees meet as their texts
do.
-/

namespace Stencil.Template

open Text Tag

/-- The tags that are visited in a text at an offset. The argument of a tag is left out, and one without an
end stops the visit. -/
def tagsFrom (rules : List Rule) (offset : Nat) (s : List Char) : List Token :=
  match h : next? rules s with
  | none => []
  | some (gap, f) =>
    ⟨f.rule, offset + gap.length, offset + (s.length - f.rest.length), f.picked⟩ ::
      match hg : goOn? f with
      | none => []
      | some rest =>
        have := length_of_next? h
        have := length_of_goOn? hg
        tagsFrom rules (offset + (s.length - rest.length)) rest
termination_by s.length

/-- All tags that are visited when a template is compiled: the includes, which are looked for in the text
first, and then the tags of the scan. -/
def visitedTags (s : List Char) : List Token := tagsFrom [.inclusion] 0 s ++ tagsFrom scanRules 0 s

def shiftTag (k : Nat) (t : Token) : Token := { t with start := t.start + k, stop := t.stop + k }

variable {rules : List Rule} {offset : Nat} {s u v gap : List Char} {f : Found}

theorem tagsFrom_end (h : next? rules s = none) (offset : Nat) : tagsFrom rules offset s = [] := by
  rw [tagsFrom]
  split
  · rfl
  · next hn =>
    rw [h] at hn
    cases hn

theorem tagsFrom_tag (h : next? rules s = some (gap, f)) (offset : Nat) :
    tagsFrom rules offset s =
      ⟨f.rule, offset + gap.length, offset + (s.length - f.rest.length), f.picked⟩ ::
        ((goOn? f).map fun rest => tagsFrom rules (offset + (s.length - rest.length)) rest).getD [] := by
  rw [tagsFrom]
  split
  · next hn =>
    rw [h] at hn
    cases hn
  · next hn =>
    rw [h] at hn
    obtain ⟨rfl, rfl⟩ := Prod.mk.inj (Option.some.inj hn)
    split
    · next hg => simp only [hg, Option.map_none, Option.getD_none]
    · next hg => simp only [hg, Option.map_some, Option.getD_some]

theorem tagsFrom_shift (k : Nat) (rules : List Rule) (offset : Nat) (s : List Char) :
    tagsFrom rules (offset + k) s = (tagsFrom rules offset s).map (shiftTag k) := by
  induction hlen : s.length using Nat.strongRecOn generalizing s offset with
  | ind n ih =>
    cases hnext : next? rules s with
    | none => rw [tagsFrom_end hnext, tagsFrom_end hnext, List.map_nil]
    | some pair =>
      obtain ⟨gap, f⟩ := pair
      rw [tagsFrom_tag hnext, tagsFrom_tag hnext, List.map_cons]
      congr 1
      · simp only [shiftTag, Token.mk.injEq, true_and, and_true]
        omega
      · cases hg : goOn? f with
        | none => rfl
        | some rest =>
          have hlt : rest.length < n := by
            have := length_of_next? hnext
            have := length_of_goOn? hg
            omega
          simp only [Option.map_some, Option.getD_some]
          rw [← ih rest.length hlt (offset + (s.length - rest.length)) rest rfl, Nat.add_right_comm]

theorem tagsFrom_eq_nil_iff (offset : Nat) : tagsFrom rules offset s = [] ↔ next? rules s = none := by
  cases h : next? rules s with
  | none => simp [tagsFrom_end h]
  | some pair =>
    obtain ⟨gap, f⟩ := pair
    simp [tagsFrom_tag h]

theorem next?_of_tagsFrom {later : List Token} (hgap : gap <+: s) (hrest : f.rest <:+ s)
    (hlt : f.rest.length < s.length)
    (h : tagsFrom rules offset s =
      ⟨f.rule, offset + gap.length, offset + (s.length - f.rest.length), f.picked⟩ :: later) :
    next? rules s = some (gap, f) := by
  cases hs : next? rules s with
  | none =>
    rw [tagsFrom_end hs] at h
    cases h
  | some pair =>
    obtain ⟨gap', f'⟩ := pair
    rw [tagsFrom_tag hs] at h
    obtain ⟨hrule, hstart, hstop, hpicked⟩ := Token.mk.inj (List.cons.inj h).1
    obtain ⟨tail, hsplit, -⟩ := next?_split hs
    have hlt' := length_of_next? hs
    have hstart : gap'.length = gap.length := by omega
    have hstop : f'.rest.length = f.rest.length := by omega
    have hbefore := List.prefix_of_prefix_length_le ⟨tail, hsplit.symm⟩ hgap (Nat.le_of_eq hstart)
    have hafter := List.suffix_of_suffix_length_le (suffix_of_next? hs) hrest (Nat.le_of_eq hstop)
    obtain ⟨rule', picked', rest'⟩ := f'
    cases hrule
    cases hpicked
    cases hafter.eq_of_length hstop
    rw [hbefore.eq_of_length hstart]

theorem goOn?_append {rest : List Char} (h : goOn? f = some rest) (w : List Char) :
    goOn? (f.before w) = some (rest ++ w) := by
  unfold goOn? at h ⊢
  by_cases hr : f.rule.takesArgument = true
  · have hr' : (f.before w).rule.takesArgument = true := hr
    rw [if_pos hr] at h
    rw [if_pos hr']
    obtain ⟨⟨argument, r⟩, ha, rfl⟩ := Option.map_eq_some_iff.1 h
    rw [show (f.before w).rest = f.rest ++ w from rfl, argument?_append ha]
    rfl
  · have hr' : ¬(f.before w).rule.takesArgument = true := hr
    rw [if_neg hr] at h
    rw [if_neg hr']
    obtain rfl := Option.some.inj h
    rfl

theorem next?_of_tags_after
    (h : tagsFrom scanRules offset (u ++ v) = tagsFrom scanRules (offset + u.length) v) :
    next? scanRules (u ++ v) = (next? scanRules v).map fun (gap, f) => (u ++ gap, f) := by
  cases hv : next? scanRules v with
  | none => exact (tagsFrom_eq_nil_iff offset).1 (h.trans (tagsFrom_end hv _))
  | some pair =>
    obtain ⟨gap, f⟩ := pair
    obtain ⟨tail, hsplit, -⟩ := next?_split hv
    have hlt := length_of_next? hv
    have hstart : offset + u.length + gap.length = offset + (u ++ gap).length := by
      rw [List.length_append, Nat.add_assoc]
    have hstop : offset + u.length + (v.length - f.rest.length) =
        offset + ((u ++ v).length - f.rest.length) := by
      rw [List.length_append]
      omega
    rw [tagsFrom_tag hv, hstart, hstop] at h
    refine next?_of_tagsFrom ⟨tail, ?_⟩ ((suffix_of_next? hv).trans (List.suffix_append u v)) ?_ h
    · rw [hsplit, List.append_assoc]
    · rw [List.length_append]
      omega

theorem next?_of_tags {tags : List Token} (hu : next? scanRules u = some (gap, f))
    (h : tagsFrom scanRules offset (u ++ v) = tagsFrom scanRules offset u ++ tags) :
    next? scanRules (u ++ v) = some (gap, f.before v) ∧
      ∀ rest, goOn? f = some rest →
        tagsFrom scanRules (offset + (u.length - rest.length)) (rest ++ v) =
          tagsFrom scanRules (offset + (u.length - rest.length)) rest ++ tags := by
  obtain ⟨tail, hsplit, -⟩ := next?_split hu
  obtain ⟨used, hused⟩ := suffix_of_next? hu
  have hlt := length_of_next? hu
  have hrest : (f.before v).rest = f.rest ++ v := rfl
  have hstop : offset + (u.length - f.rest.length) =
      offset + ((u ++ v).length - (f.before v).rest.length) := by
    rw [hrest, List.length_append, List.length_append]
    omega
  rw [tagsFrom_tag hu, List.cons_append, hstop] at h
  have hnext : next? scanRules (u ++ v) = some (gap, f.before v) := by
    refine next?_of_tagsFrom ⟨tail ++ v, ?_⟩ ⟨used, ?_⟩ ?_ h
    · rw [hsplit, List.append_assoc]
    · rw [hrest, ← List.append_assoc, hused]
    · rw [hrest, List.length_append, List.length_append]
      omega
  refine ⟨hnext, fun rest hg => ?_⟩
  have hoffset : offset + ((u ++ v).length - (rest ++ v).length) = offset + (u.length - rest.length) := by
    rw [List.length_append, List.length_append]
    omega
  rw [tagsFrom_tag hnext, hg, goOn?_append hg v] at h
  simpa only [Option.map_some, Option.getD_some, hoffset] using (List.cons.inj h).2

/-- A text is read as it is read alone when the tags of the whole are its tags and then those of the rest. -/
theorem seam_of_tags (h : tagsFrom scanRules offset (u ++ v) =
    tagsFrom scanRules offset u ++ tagsFrom scanRules (offset + u.length) v) : Seam v u := by
  induction hlen : u.length using Nat.strongRecOn generalizing u offset with
  | ind n ih =>
    cases hu : next? scanRules u with
    | none =>
      rw [tagsFrom_end hu, List.nil_append] at h
      exact .last hu (next?_of_tags_after h)
    | some pair =>
      obtain ⟨gap, f⟩ := pair
      obtain ⟨hnext, hlater⟩ := next?_of_tags hu h
      refine .tag hu hnext fun rest hg => ?_
      have hlt : rest.length < u.length := Nat.lt_of_le_of_lt (length_of_goOn? hg) (length_of_next? hu)
      have hend : offset + u.length = offset + (u.length - rest.length) + rest.length := by omega
      rw [hend] at hlater
      exact ih rest.length (hlen ▸ hlt) (hlater rest hg) rfl

theorem seam_nil (s : List Char) : Seam [] s := by
  have htags : tagsFrom scanRules 0 (s ++ []) = tagsFrom scanRules 0 s ++ tagsFrom scanRules (0 + s.length) [] := by
    rw [List.append_nil, tagsFrom_end (s := []) rfl, List.append_nil]
  exact seam_of_tags htags

theorem rule_of_mem_tagsFrom {t : Token} (h : t ∈ tagsFrom rules offset s) : t.rule ∈ rules := by
  induction hlen : s.length using Nat.strongRecOn generalizing s offset with
  | ind n ih =>
    cases hnext : next? rules s with
    | none =>
      rw [tagsFrom_end hnext] at h
      cases h
    | some pair =>
      obtain ⟨gap, f⟩ := pair
      rw [tagsFrom_tag hnext] at h
      rcases List.mem_cons.1 h with rfl | h
      · obtain ⟨tail, -, hfirst⟩ := next?_split hnext
        obtain ⟨r, hr, hmatch⟩ := List.exists_of_findSome?_eq_some hfirst
        exact Rule.rule_of_match? hmatch ▸ hr
      · cases hg : goOn? f with
        | none =>
          rw [hg] at h
          cases h
        | some rest =>
          rw [hg] at h
          have hlt : rest.length < n :=
            hlen ▸ Nat.lt_of_le_of_lt (length_of_goOn? hg) (length_of_next? hnext)
          exact ih rest.length hlt h rfl

theorem next?_inclusion_eq_none_iff : next? [.inclusion] s = none ↔ Free s := by
  induction s with
  | nil => exact ⟨fun _ => ⟨by decide⟩, fun _ => rfl⟩
  | cons c s ih =>
    have hfirst : first? [.inclusion] (c :: s) = (after? includeMark (c :: s)).map (⟨.inclusion, [], ·⟩) := by
      rw [first?, List.findSome?_singleton]
      rfl
    rw [next?, hfirst]
    cases ha : after? includeMark (c :: s) with
    | some rest =>
      have hhere : includeMark <+: c :: s := ⟨rest, (after?_eq_some_iff.1 ha).symm⟩
      constructor
      · intro hnone
        cases hnone
      · intro h
        exact absurd hhere.isInfix h.absent
    | none =>
      dsimp only [Option.map_none]
      rw [Option.map_eq_none_iff, ih]
      refine ⟨fun h => ⟨?_⟩, Free.tail⟩
      rw [List.infix_cons_iff]
      rintro (⟨rest, hp⟩ | hi)
      · rw [after?_eq_some_iff.2 hp.symm] at ha
        cases ha
      · exact h.absent hi

theorem visitedTags_free (h : Free s) : visitedTags s = tagsFrom scanRules 0 s := by
  rw [visitedTags, tagsFrom_end (next?_inclusion_eq_none_iff.2 h), List.nil_append]

theorem free_of_visited {tags : List Token} (h : visitedTags s = tags) (hscan : ∀ t ∈ tags, t.rule ∈ scanRules) :
    Free s := by
  rw [← next?_inclusion_eq_none_iff, ← tagsFrom_eq_nil_iff 0, List.eq_nil_iff_forall_not_mem]
  intro t ht
  have hrule := List.mem_singleton.1 (rule_of_mem_tagsFrom ht)
  have hmem := hscan t (h ▸ List.mem_append_left _ ht)
  rw [hrule] at hmem
  exact absurd hmem (by decide)

/-- The instructions of two trees, one tree after the other. Two literals that meet become one. -/
def joinBodies (a b : Body) : Body :=
  match a.getLast?, b with
  | some (.literal x), .literal y :: rest => a.dropLast ++ .literal (x ++ y) :: rest
  | _, _ => a ++ b

def onBase : (body base : Body) → Body
  | [], base => base
  | [.literal t], base => addText t base
  | i :: body, base => i :: onBase body base

def ontoOpen (base : Body) : List Open → List Open
  | [] => []
  | [o] => [{ o with around := onBase o.around base }]
  | o :: blocks => o :: ontoOpen base blocks

def State.onto (base : Body) : State → State
  | ⟨body, []⟩ => ⟨onBase body base, []⟩
  | ⟨body, blocks⟩ => ⟨body, ontoOpen base blocks⟩

variable {base : Body} {st st' : State}

theorem onBase_cons {i : Instruction String} (hi : isLiteral i = false) (body : Body) :
    onBase (i :: body) base = i :: onBase body base := by
  cases i with
  | literal t => cases hi
  | echo | choose | loop | stray => rfl

theorem addText_onBase (t : String) (body : Body) :
    addText t (onBase body base) = onBase (addText t body) base := by
  rcases body with _ | ⟨i, body⟩
  · rfl
  · cases i with
    | literal before =>
      cases body with
      | nil => exact addText_addText before t base
      | cons j body => rfl
    | echo | choose | loop | stray => rfl

theorem onBase_concat (body : Body) (i : Instruction String) :
    onBase (body ++ [i]) base = body ++ onBase [i] base := by
  induction body with
  | nil => rfl
  | cons j body ih =>
    rw [List.cons_append, List.cons_append, ← ih]
    cases body <;> cases j <;> rfl

theorem reverse_onBase (a b : Body) : (onBase b.reverse a.reverse).reverse = joinBodies a b := by
  cases b with
  | nil =>
    have hjoin : joinBodies a [] = a := by
      unfold joinBodies
      split
      · next hb => cases hb
      · exact List.append_nil a
    rw [hjoin]
    exact List.reverse_reverse a
  | cons i b =>
    rw [List.reverse_cons, onBase_concat, List.reverse_append, List.reverse_reverse]
    rcases List.eq_nil_or_concat a with rfl | ⟨a, j, rfl⟩
    · cases i <;> rfl
    · rw [List.concat_eq_append, List.reverse_append]
      unfold joinBodies
      rw [List.getLast?_concat, List.dropLast_concat]
      cases i <;> cases j <;> simp [onBase, addText]

theorem isLiteral_close (head : Head) (body : Body) : isLiteral (head.close body) = false := by
  cases head <;> rfl

theorem turn_onto {tag : ArmTag} {line : Nat} {next : List (Arm String) → Head}
    (h : st.turn tag line next = .ok st') : (st.onto base).turn tag line next = .ok (st'.onto base) := by
  obtain ⟨body, blocks⟩ := st
  obtain ⟨before, cond, opened, around, blocks, hb, rfl⟩ := State.turn_ok h
  dsimp only at hb
  subst hb
  cases blocks <;> rfl

theorem close_onto {kind : BlockKind} {line : Nat} (h : st.close kind line = .ok st') :
    (st.onto base).close kind line = .ok (st'.onto base) := by
  obtain ⟨body, blocks⟩ := st
  obtain ⟨head, opened, around, blocks, hb, hk, rfl⟩ := State.close_ok h
  dsimp only at hb
  subst hb
  cases blocks with
  | nil =>
    -- the outermost block is complete, so its instruction stands on the base
    have hclose : State.close ⟨body, [⟨head, opened, onBase around base⟩]⟩ kind line =
        .ok ⟨head.close body.reverse :: onBase around base, []⟩ := if_pos hk
    rw [← onBase_cons (isLiteral_close head body.reverse)] at hclose
    exact hclose
  | cons o blocks =>
    have hclose : State.close ⟨body, ⟨head, opened, around⟩ :: ontoOpen base (o :: blocks)⟩ kind line =
        .ok ⟨head.close body.reverse :: around, ontoOpen base (o :: blocks)⟩ := if_pos hk
    exact hclose

theorem step_onto {p : Piece} (h : st.step p = .ok st') : (st.onto base).step p = .ok (st'.onto base) := by
  obtain ⟨body, blocks⟩ := st
  cases p with
  | bad cause line => cases h
  | text t =>
    obtain rfl := Except.ok.inj h
    cases blocks with
    | nil => exact congrArg (fun body => Except.ok (State.mk body [])) (addText_onBase _ body)
    | cons o blocks => rfl
  | mark m line =>
    cases m with
    | comment =>
      obtain rfl := Except.ok.inj h
      cases blocks <;> rfl
    | echo | choice | loop =>
      obtain rfl := Except.ok.inj h
      cases blocks <;> rfl
    | further cond' =>
      change State.turn _ .further line (fun before => .arm before cond') = .ok st' at h
      exact turn_onto h
    | otherwise =>
      change State.turn _ .otherwise line .last = .ok st' at h
      exact turn_onto h
    | endChoice =>
      change State.close _ .choice line = .ok st' at h
      exact close_onto h
    | endLoop =>
      change State.close _ .loop line = .ok st' at h
      exact close_onto h

theorem tree_onto {ps : List Piece} {b : Body} (h : tree ps = .ok b) (base : Body) :
    ps.foldlM State.step ⟨base, []⟩ = .ok ⟨onBase b.reverse base, []⟩ := by
  refine tree_induction (P := fun ps st => ps.foldlM State.step ⟨base, []⟩ = .ok (st.onto base)) rfl ?_ h
  intro ps p st st' hps hp
  rw [List.foldlM_append, hps]
  show (State.step (st.onto base) p >>= pure) = _
  rw [step_onto hp]
  rfl

theorem Above.closed {body : Body} {tall : State} (h : Above [] ⟨body, []⟩ tall) : tall = ⟨body, []⟩ := by
  obtain ⟨hbody, blocks, hblocks, hmap⟩ := h
  obtain ⟨body', blocks'⟩ := tall
  obtain rfl := List.map_eq_nil_iff.1 hmap
  dsimp only at hbody hblocks
  rw [hbody, hblocks, List.append_nil]

theorem reading_parsed {body : Body} (hu : parse u = .ok body) (hseam : Seam v u) (template : List Char) :
    reading template (u ++ v) ⟨[], []⟩ = reading template v ⟨body.reverse, []⟩ := by
  obtain ⟨⟨inner, blocks⟩, hread, hfinish⟩ := exists_of_bind_ok hu
  cases blocks with
  | cons block blocks => cases hfinish
  | nil =>
    obtain rfl := Except.ok.inj hfinish
    obtain ⟨tall, ho, htall⟩ := hseam.reading hread template ⟨rfl, [], rfl, rfl⟩
    rw [htall, ho.closed, List.reverse_reverse]

theorem parse_append {a b : Body} (hu : parse u = .ok a) (hv : parse v = .ok b) (hseam : Seam v u) :
    parse (u ++ v) = .ok (joinBodies a b) := by
  -- the lines of the second template are other ones in the whole text, but its tree is the same
  have hlines : reading (u ++ v) v ⟨[], []⟩ = .ok ⟨b.reverse, []⟩ := by
    have hlines := reading_parsed hv (seam_nil v) (u ++ v)
    rw [List.append_nil] at hlines
    rw [hlines, reading, piecesFrom_end rfl]
    rfl
  have htree : tree (piecesFrom (u ++ v) v) = .ok b := by
    change reading (u ++ v) v ⟨[], []⟩ >>= State.finish = _
    rw [hlines]
    exact congrArg Except.ok (List.reverse_reverse b)
  have hwhole : reading (u ++ v) (u ++ v) ⟨[], []⟩ = .ok ⟨onBase b.reverse a.reverse, []⟩ := by
    rw [reading_parsed hu hseam, reading, tree_onto htree]
  rw [parse, tree, pieces]
  change reading (u ++ v) (u ++ v) ⟨[], []⟩ >>= State.finish = _
  rw [hwhole, ← reverse_onBase]
  rfl

/-- The tags that are visited in two texts side by side are those of the first and then those of the second. -/
def TagsMeet (u v : List Char) : Prop :=
  visitedTags (u ++ v) = visitedTags u ++ (visitedTags v).map (shiftTag u.length)

theorem free_of_meet (hu : Free u) (hv : Free v) (h : TagsMeet u v) : Free (u ++ v) := by
  refine free_of_visited h fun t ht => ?_
  rw [visitedTags_free hu, visitedTags_free hv, ← tagsFrom_shift] at ht
  rcases List.mem_append.1 ht with ht | ht <;> exact rule_of_mem_tagsFrom ht

theorem seam_of_meet (hu : Free u) (hv : Free v) (h : TagsMeet u v) : Seam v u := by
  have hwhole := h
  rw [TagsMeet, visitedTags_free hu, visitedTags_free hv, visitedTags_free (free_of_meet hu hv h),
    ← tagsFrom_shift] at hwhole
  exact seam_of_tags hwhole

theorem parseText_free {resolve : Resolver} {text : String} (h : Free text.toList) :
    parseText resolve text = parse text.toList :=
  parseText_of_expand (expand_free h)

theorem parseText_append {resolve : Resolver} {first second : String} {a b : Body}
    (hfirst : Free first.toList) (hsecond : Free second.toList) (htags : TagsMeet first.toList second.toList)
    (ha : parseText resolve first = .ok a) (hb : parseText resolve second = .ok b) :
    parseText resolve (first ++ second) = .ok (joinBodies a b) := by
  have hfree := free_of_meet hfirst hsecond htags
  rw [← String.toList_append] at hfree
  rw [parseText_free hfirst] at ha
  rw [parseText_free hsecond] at hb
  rw [parseText_free hfree, String.toList_append]
  exact parse_append ha hb (seam_of_meet hfirst hsecond htags)

end Stencil.Template
