import Stencil.Proofs.Template.Expansion
import Stencil.Proofs.Template.Seam
/-!
# Blocks around a template

A template between the tags of a block is read as it is read alone: its includes bring in the same texts,
its tags are found where they were, and the parser puts them together above the block that is open.
-/

namespace Stencil.Template

open Text Tag

theorem cut?_after {s u before after : List Char} {x : Char} (hx : x ∉ includeMark) (hu : Free u)
    (h : cut? includeMark s = some (before, after)) :
    cut? includeMark (u ++ x :: s) = some (u ++ x :: before, after) := by
  obtain ⟨rfl, hfirst⟩ := (cut?_eq_some_iff includeMark_ne_nil).1 h
  refine (cut?_eq_some_iff includeMark_ne_nil).2 ⟨by simp, fun q hq hp => ?_⟩
  by_cases hqu : q ≤ u.length
  · rw [List.drop_append_of_le_length hqu] at hp
    exact hu.absent ((prefix_of_not_mem hx hp).isInfix.trans (List.drop_suffix q u).isInfix)
  · obtain ⟨k, rfl⟩ : ∃ k, q = u.length + (k + 1) := ⟨q - u.length - 1, by omega⟩
    simp only [List.length_append, List.length_cons] at hq
    rw [List.drop_append, List.drop_of_length_le (by omega), List.nil_append, Nat.add_sub_cancel_left,
      List.drop_succ_cons] at hp
    exact hfirst k (by omega) hp

theorem expandFrom_before {m : Type → Type} [Monad m] [LawfulMonad m] [MonadExceptOf Fault m]
    (hthrow : ∀ (f : List Char → List Char) (fault : Fault), f <$> (throw fault : m (List Char)) = throw fault)
    {fetch : Option (String → m (List Char))} {u : List Char} {z : Char} (hz : z ∉ includeMark) (hu : Free u)
    (template s : List Char) :
    expandFrom fetch template (u ++ z :: s) = (u ++ z :: ·) <$> expandFrom fetch template s := by
  cases hc : cut? includeMark s with
  | none =>
    have hs : Free s := ⟨(cut?_eq_none_iff includeMark_ne_nil).1 hc⟩
    have hjoin := (cut?_eq_none_iff includeMark_ne_nil).2 (hu.join hz hs).absent
    rw [expandFrom_plain hc, expandFrom_plain hjoin, map_pure]
  | some parts =>
    obtain ⟨before, after⟩ := parts
    have hcut := cut?_after hz hu hc
    cases ha : argument? after with
    | none => rw [expandFrom_endless hc ha, expandFrom_endless hcut ha, hthrow]
    | some found =>
      obtain ⟨argument, rest⟩ := found
      cases fetch with
      | none => rw [expandFrom_unresolved hc ha, expandFrom_unresolved hcut ha, hthrow]
      | some fetch =>
        rw [expandFrom_include hc ha, expandFrom_include hcut ha]
        simp only [map_bind, map_pure, List.append_assoc, List.cons_append]

theorem Free.glue {s w : List Char} (hs : Free s) (h : Wordy w) (hw : Free w) : Free (s ++ w) := by
  induction s with
  | nil => exact hw
  | cons c s ih =>
    constructor
    rw [List.cons_append, List.infix_cons_iff]
    -- an include that begins in `s` is there whole, since its only at sign is its first character
    rintro (⟨rest, hp⟩ | hi)
    · have hafter : after? includeMark (c :: s ++ w) = some rest := after?_eq_some_iff.2 hp.symm
      rw [show includeMark = '@' :: "include(".toList from rfl,
        after?_wordy h (List.cons_ne_nil c s) (by decide)] at hafter
      obtain ⟨found, hf, -⟩ := Option.map_eq_some_iff.1 hafter
      have hfound : includeMark <+: c :: s := ⟨found, (after?_eq_some_iff.1 hf).symm⟩
      exact hs.absent hfound.isInfix
    · exact (ih hs.tail).absent hi

variable {fetch : Option (String → Except Fault (List Char))} {template s w x : List Char}

theorem expandFrom_append (hw : ∀ s, Free s → Free (s ++ w)) (h : expandFrom fetch template s = .ok x)
    (template' : List Char) : expandFrom fetch template' (s ++ w) = .ok (x ++ w) := by
  -- the scan for names takes the same turns: no include, one without an end, and one with the rest after it
  fun_induction includeNames s generalizing x with
  | case1 s hc =>
    rw [expandFrom_plain hc] at h
    obtain rfl := Except.ok.inj h
    have hfree := hw s ⟨(cut?_eq_none_iff includeMark_ne_nil).1 hc⟩
    exact expandFrom_plain ((cut?_eq_none_iff includeMark_ne_nil).2 hfree.absent)
  | case2 s before after hc ha =>
    rw [expandFrom_endless hc ha] at h
    cases h
  | case3 s before after hc argument rest ha _ _ ih =>
    cases fetch with
    | none =>
      rw [expandFrom_unresolved hc ha] at h
      cases h
    | some fetch =>
      rw [expandFrom_include hc ha] at h
      obtain ⟨inner, hinner, h⟩ := exists_of_bind_ok h
      obtain ⟨outer, houter, h⟩ := exists_of_bind_ok h
      obtain rfl := Except.ok.inj h
      rw [expandFrom_include (cut?_append includeMark_ne_nil hc w) (argument?_append ha w), hinner]
      show expandFrom (some fetch) template' (rest ++ w) >>= _ = _
      rw [ih houter]
      exact congrArg Except.ok (List.append_assoc _ _ _).symm

theorem expandFrom_between {u : List Char} (hu : Free u) (hw : ∀ s, Free s → Free (s ++ w))
    (h : expandFrom fetch template s = .ok x) (template' : List Char) :
    expandFrom fetch template' (u ++ ')' :: (s ++ w)) = .ok (u ++ ')' :: (x ++ w)) := by
  rw [expandFrom_before (fun _ _ => rfl) (by decide) hu, expandFrom_append hw h template']
  rfl

theorem expand_between {resolve : Resolver} {u : List Char} (hu : Free u) (hw : ∀ s, Free s → Free (s ++ w))
    (h : expand resolve s = .ok x) :
    expand resolve (u ++ ')' :: (s ++ w)) = .ok (u ++ ')' :: (x ++ w)) :=
  expandFrom_between hu hw h _

theorem parse_block {u : List Char} {head : Head} {f : Found} {body : Body} (h : Wordy w)
    (hw : first? scanRules w = some f)
    (hopen : ∀ template rest st, ∃ line,
      reading template (u ++ ')' :: rest) st = reading template rest (st.enter head line))
    (hclose : ∀ template inner line,
      reading template w ⟨inner, [⟨head, line, []⟩]⟩ = .ok ⟨[head.close inner.reverse], []⟩)
    (hx : parse x = .ok body) : parse (u ++ ')' :: (x ++ w)) = .ok [head.close body] := by
  obtain ⟨⟨inner, blocks⟩, hread, hfinish⟩ := exists_of_bind_ok hx
  obtain ⟨line, hline⟩ := hopen (u ++ ')' :: (x ++ w)) (x ++ w) ⟨[], []⟩
  have habove : Above [⟨head, line, []⟩] ⟨[], []⟩ (State.enter ⟨[], []⟩ head line) := ⟨rfl, [], rfl, rfl⟩
  obtain ⟨⟨tall, above⟩, ho, htall⟩ := reading_append h hw hread (u ++ ')' :: (x ++ w)) habove
  -- nothing stays open inside, so the block is the innermost one again
  cases blocks with
  | cons block blocks => cases hfinish
  | nil =>
    obtain rfl := Except.ok.inj hfinish
    obtain ⟨hbody, blocks, hblocks, hmap⟩ := ho
    obtain rfl := List.map_eq_nil_iff.1 hmap
    dsimp only at hbody hblocks
    subst hbody hblocks
    rw [parse, tree, pieces]
    change reading (u ++ ')' :: (x ++ w)) (u ++ ')' :: (x ++ w)) ⟨[], []⟩ >>= State.finish = _
    rw [hline, htall, List.nil_append, hclose]
    rfl

theorem parseText_block {resolve : Resolver} {text : String} {u : List Char} {head : Head} {f : Found}
    {body : Body} (hu : Free u) (h : Wordy w) (hfree : Free w) (hw : first? scanRules w = some f)
    (hopen : ∀ template rest st, ∃ line,
      reading template (u ++ ')' :: rest) st = reading template rest (st.enter head line))
    (hclose : ∀ template inner line,
      reading template w ⟨inner, [⟨head, line, []⟩]⟩ = .ok ⟨[head.close inner.reverse], []⟩)
    (ht : parseText resolve text = .ok body) :
    parseText resolve (String.ofList (u ++ ')' :: (text.toList ++ w))) = .ok [head.close body] := by
  obtain ⟨x, hx, hparse⟩ := exists_of_bind_ok ht
  have hexpand := expand_between hu (fun s hs => hs.glue h hfree) hx
  rw [parseText, String.toList_ofList, hexpand]
  exact parse_block h hw hopen hclose hparse

def inChoice (cond text : List Char) : List Char := choiceWord ++ (cond ++ ')' :: (text ++ endChoiceWord))

def inLoop (iterable key value text : List Char) : List Char :=
  loopWord ++ (iterable ++ (printBinding (some key) value ++ ')' :: (text ++ endLoopWord)))

theorem wordy_endChoice : Wordy endChoiceWord := ⟨⟨_, rfl⟩, by decide⟩

theorem wordy_endLoop : Wordy endLoopWord := ⟨⟨_, rfl⟩, by decide⟩

theorem free_endChoiceWord : Free endChoiceWord := ⟨by decide +kernel⟩

theorem free_endLoopWord : Free endLoopWord := ⟨by decide +kernel⟩

theorem first?_endChoice : first? scanRules endChoiceWord = some ⟨.endChoice, [], []⟩ := rfl

theorem first?_endLoop : first? scanRules endLoopWord = some ⟨.endLoop, [], []⟩ := rfl

theorem reading_closing {f : Found} {m : Mark} (hw : first? scanRules w = some f) (hne : w ≠ [])
    (hm : readMark f = .ok (m, [])) (hs : ∀ line, st.step (.mark m line) = .ok st') :
    reading template w st = .ok st' := by
  have hnil : reading template [] st' = .ok st' := by
    rw [reading, piecesFrom_end rfl]
    rfl
  rw [reading_mark (next?_of_first? hw hne) hm, hs]
  exact hnil

variable {resolve : Resolver} {body : Body} {text : String}

theorem parseText_inChoice {cond : List Char} (hc : Complete cond) (hne : trim cond ≠ [])
    (hfree : Free cond) (ht : parseText resolve text = .ok body) :
    parseText resolve (String.ofList (inChoice cond text.toList)) =
      .ok [.choose [.mk (String.ofList (trim cond)) body] none] := by
  have hhead : Free (choiceWord ++ cond) :=
    free_tag (u := ['@', 'i']) (x := 'f') (v := ['(']) (by decide) ⟨by decide⟩ (by decide) hfree
  have hopen : ∀ template rest st, ∃ line, reading template (choiceWord ++ cond ++ ')' :: rest) st =
      reading template rest (st.enter (.arm [] (String.ofList (trim cond))) line) := by
    intro template rest st
    have harg := hc.argument? (w := []) (by simp) rest
    rw [List.nil_append, List.append_nil] at harg
    have hread := readMark_argument (r := .choice) rfl harg (markWith_choice hne)
    rw [List.append_assoc, reading_mark (next?_choice _) hread]
    exact ⟨_, rfl⟩
  have hclose : ∀ template inner line,
      reading template endChoiceWord ⟨inner, [⟨.arm [] (String.ofList (trim cond)), line, []⟩]⟩ =
        .ok ⟨[.choose [.mk (String.ofList (trim cond)) inner.reverse] none], []⟩ :=
    fun _ _ _ => reading_closing first?_endChoice (by decide) rfl fun _ => rfl
  rw [inChoice, ← List.append_assoc]
  exact parseText_block hhead wordy_endChoice free_endChoiceWord first?_endChoice hopen hclose ht

theorem parseText_inLoop {iterable key value : List Char} (hi : ArgumentText iterable) (hk : IsName key)
    (hv : IsName value) (ht : parseText resolve text = .ok body) :
    parseText resolve (String.ofList (inLoop iterable key value text.toList)) =
      .ok [.loop (String.ofList iterable) (some (String.ofList key)) (String.ofList value) body] := by
  have hkey : ∀ k ∈ some key, IsName k := by
    rintro k hmem
    obtain rfl := Option.some.inj hmem
    exact hk
  have hhead : Free (loopWord ++ (iterable ++ printBinding (some key) value)) := by
    obtain ⟨t, ht⟩ := printBinding_eq_cons (some key) value
    have hbinding := at_not_mem_binding hkey hv
    rw [ht] at hbinding ⊢
    have hfree : Free t := ⟨fun h => hbinding (List.mem_cons_of_mem _ (h.subset (by decide)))⟩
    exact free_tag (u := ['@']) (x := 'f') (v := "oreach(".toList) (by decide) ⟨by decide⟩ (by decide)
      (hi.plain.join (by decide) hfree)
  have hopen : ∀ template rest st, ∃ line,
      reading template (loopWord ++ (iterable ++ printBinding (some key) value) ++ ')' :: rest) st =
        reading template rest (st.enter
          (.loop (String.ofList iterable) (some (String.ofList key)) (String.ofList value)) line) := by
    intro template rest st
    have harg := hi.complete.argument? (loopTail_print hkey hv).isPlain rest
    rw [trim_print hi.nonempty hi.trimmed hv] at harg
    have hhead := loopHead?_print hi.nonempty hi.trimmed hkey hv
    have hread := readMark_argument (r := .loop) rfl harg (markWith_loop (by simp [hi.nonempty]) hhead)
    rw [List.append_assoc, List.append_assoc, reading_mark (next?_loop _) hread]
    exact ⟨_, rfl⟩
  have hclose : ∀ template inner line, reading template endLoopWord
      ⟨inner, [⟨.loop (String.ofList iterable) (some (String.ofList key)) (String.ofList value), line, []⟩]⟩ =
        .ok ⟨[.loop (String.ofList iterable) (some (String.ofList key)) (String.ofList value) inner.reverse],
          []⟩ :=
    fun _ _ _ => reading_closing first?_endLoop (by decide) rfl fun _ => rfl
  rw [inLoop, ← List.append_assoc iterable, ← List.append_assoc]
  exact parseText_block hhead wordy_endLoop free_endLoopWord first?_endLoop hopen hclose ht

end Stencil.Template
