import Stencil.Proofs.Template.Parse
import Stencil.Proofs.Template.Printer
/-!
# Reading what is printed

What is printed of an instruction is read as that instruction, whatever blocks are open around it and
whatever follows.
-/

namespace Stencil.Template

open Text Tag

def reading (template s : List Char) (st : State) : Except Fault State :=
  (piecesFrom template s).foldlM State.step st

theorem reading_mark {template s rest : List Char} {f : Found} {m : Mark}
    (h : next? scanRules s = some ([], f)) (hm : readMark f = .ok (m, rest)) (st : State) :
    reading template s st = st.step (.mark m (lineAt template s)) >>= reading template rest := by
  rw [reading, piecesFrom_mark h hm]
  rfl

theorem reading_separator (template rest : List Char) (st : State) :
    reading template (separator ++ rest) st = reading template rest st :=
  reading_mark (next?_separator rest) rfl st

theorem reading_char (template rest : List Char) (c : Char) (st : State) :
    reading template (c :: (separator ++ rest)) st =
      reading template rest ⟨addText (String.ofList [c]) st.body, st.blocks⟩ := by
  rw [reading, piecesFrom_tag (next?_char c rest)]
  rfl

theorem reading_echo (template rest : List Char) {expr : String} (h : EchoText expr.toList) (st : State) :
    reading template (echoHead ++ (expr.toList ++ (echoTail ++ rest))) st =
      reading template rest ⟨.echo expr :: st.body, st.blocks⟩ := by
  rw [reading_mark (next?_echo rest h.nonempty h.trimmed h.oneLine h.unended) rfl, String.ofList_toList]
  rfl

theorem argument?_text {a : List Char} (h : ArgumentText a) (rest : List Char) :
    argument? (a ++ ')' :: rest) = some (a, rest) := by
  have := h.complete.argument? (w := []) (by simp) rest
  rwa [List.append_nil, h.trimmed] at this

theorem readMark_argument {r : Rule} {a s rest : List Char} {m : Mark} (hr : r.takesArgument = true)
    (ha : argument? s = some (a, rest)) (hm : markWith r a = .ok m) :
    readMark ⟨r, [], s⟩ = .ok (m, rest) := by
  rw [readMark, if_pos hr]
  simp only [ha, hm]
  rfl

theorem markWith_choice {a : List Char} (h : a ≠ []) :
    markWith .choice a = .ok (.choice (String.ofList a)) :=
  if_neg (by simpa using h)

theorem markWith_further {a : List Char} (h : a ≠ []) :
    markWith .further a = .ok (.further (String.ofList a)) :=
  if_neg (by simpa using h)

theorem markWith_loop {a : List Char} {head : LoopHead} (h : a ≠ []) (hl : loopHead? a = some head) :
    markWith .loop a = .ok (.loop (String.ofList head.iterable) (head.key.map String.ofList)
      (String.ofList head.value)) := by
  rw [markWith, if_neg (by simpa using h)]
  simp only [loopMark, hl]

theorem reading_choice (template rest : List Char) {cond : String} (h : ArgumentText cond.toList)
    (st : State) :
    ∃ line, reading template (choiceWord ++ (cond.toList ++ ')' :: (separator ++ rest))) st =
      reading template rest (st.enter (.arm [] cond) line) := by
  have hread := readMark_argument (r := .choice) rfl (argument?_text h (separator ++ rest))
    (markWith_choice h.nonempty)
  rw [String.ofList_toList] at hread
  rw [reading_mark (next?_choice _) hread]
  exact ⟨_, reading_separator template rest _⟩

theorem reading_further (template rest : List Char) {cond : String} (h : ArgumentText cond.toList)
    (body around : Body) (before : List (Arm String)) (c : String) (line : Nat) (blocks : List Open) :
    reading template (furtherWord ++ (cond.toList ++ ')' :: (separator ++ rest)))
        ⟨body, ⟨.arm before c, line, around⟩ :: blocks⟩ =
      reading template rest
        ⟨[], ⟨.arm (before ++ [.mk c body.reverse]) cond, line, around⟩ :: blocks⟩ := by
  have hread := readMark_argument (r := .further) rfl (argument?_text h (separator ++ rest))
    (markWith_further h.nonempty)
  rw [String.ofList_toList] at hread
  rw [reading_mark (next?_further _) hread]
  exact reading_separator template rest _

theorem reading_otherwise (template rest : List Char) (body around : Body) (before : List (Arm String))
    (c : String) (line : Nat) (blocks : List Open) :
    reading template (otherwiseWord ++ (separator ++ rest))
        ⟨body, ⟨.arm before c, line, around⟩ :: blocks⟩ =
      reading template rest ⟨[], ⟨.last (before ++ [.mk c body.reverse]), line, around⟩ :: blocks⟩ := by
  rw [reading_mark (next?_otherwise _) rfl]
  exact reading_separator template rest _

theorem reading_endChoice (template rest : List Char) {head : Head} (h : head.kind = .choice)
    (body around : Body) (line : Nat) (blocks : List Open) :
    reading template (endChoiceWord ++ (separator ++ rest)) ⟨body, ⟨head, line, around⟩ :: blocks⟩ =
      reading template rest ⟨head.close body.reverse :: around, blocks⟩ := by
  rw [reading_mark (next?_endChoice _) rfl]
  simp only [State.step, State.close, h, if_true]
  exact reading_separator template rest _

theorem reading_endLoop (template rest : List Char) {head : Head} (h : head.kind = .loop)
    (body around : Body) (line : Nat) (blocks : List Open) :
    reading template (endLoopWord ++ (separator ++ rest)) ⟨body, ⟨head, line, around⟩ :: blocks⟩ =
      reading template rest ⟨head.close body.reverse :: around, blocks⟩ := by
  rw [reading_mark (next?_endLoop _) rfl]
  simp only [State.step, State.close, h, if_true]
  exact reading_separator template rest _

theorem reading_loop (template rest : List Char) {iterable value : String} {key : Option String}
    (hi : ArgumentText iterable.toList) (hk : ∀ k ∈ key, IsName k.toList) (hv : IsName value.toList)
    (st : State) :
    ∃ line, reading template
        (loopWord ++ (iterable.toList ++ (printBinding (key.map String.toList) value.toList ++
          ')' :: (separator ++ rest)))) st =
      reading template rest (st.enter (.loop iterable key value) line) := by
  have hnames := names_of_field hk
  have harg := hi.complete.argument? (loopTail_print hnames hv).isPlain (separator ++ rest)
  rw [trim_print hi.nonempty hi.trimmed hv] at harg
  have hhead := loopHead?_print hi.nonempty hi.trimmed hnames hv
  have hread := readMark_argument (r := .loop) rfl harg (markWith_loop (by simp [hi.nonempty]) hhead)
  have hkey : (key.map String.toList).map String.ofList = key := by
    cases key with
    | none => rfl
    | some k => simp
  simp only [String.ofList_toList, hkey] at hread
  rw [reading_mark (next?_loop _) hread]
  exact ⟨_, reading_separator template rest _⟩

theorem reading_chars (template rest : List Char) (t : List Char) (before : String) (body : Body)
    (blocks : List Open) :
    reading template ((t.flatMap fun c => c :: separator) ++ rest) ⟨.literal before :: body, blocks⟩ =
      reading template rest ⟨.literal (before ++ String.ofList t) :: body, blocks⟩ := by
  induction t generalizing before with
  | nil => simp
  | cons c t ih =>
    rw [List.flatMap_cons, List.append_assoc, List.cons_append, reading_char]
    have hjoin : before ++ String.ofList [c] ++ String.ofList t = before ++ String.ofList (c :: t) := by
      rw [String.append_assoc, ← String.ofList_append]
      rfl
    rw [← hjoin]
    exact ih (before ++ String.ofList [c])

theorem reading_text (template rest : List Char) {t : String} (ht : t ≠ "") {st : State}
    (hst : ∀ j ∈ st.body.head?, isLiteral j = false) :
    reading template ((t.toList.flatMap fun c => c :: separator) ++ rest) st =
      reading template rest ⟨.literal t :: st.body, st.blocks⟩ := by
  have hadd (u : String) : addText u st.body = .literal u :: st.body := by
    cases hb : st.body with
    | nil => rfl
    | cons i body =>
      cases i with
      | literal s =>
        have := hst (.literal s) (by rw [hb]; rfl)
        cases this
      | _ => rfl
  cases hc : t.toList with
  | nil => exact absurd (String.toList_eq_nil_iff.1 hc) ht
  | cons c more =>
    have hall : String.ofList [c] ++ String.ofList more = t := by
      rw [← String.ofList_append]
      exact (congrArg String.ofList hc.symm).trans String.ofList_toList
    rw [List.flatMap_cons, List.append_assoc, List.cons_append, reading_char, hadd, reading_chars, hall]

def GoesOn (before after : Body) : Prop := ∀ j ∈ before.head?, ∀ i ∈ after.head?, Apart j (some i)

theorem goesOn_nil (after : Body) : GoesOn [] after := by
  intro j hj
  cases hj

mutual

theorem reading_print : ∀ i : Instruction String, Normal i → ∀ (template rest : List Char) (st : State),
    (∀ j ∈ st.body.head?, Apart j (some i)) →
    reading template (print i ++ rest) st = reading template rest ⟨i :: st.body, st.blocks⟩
  | .literal t, h, template, rest, st, hst => by
    rw [print]
    refine reading_text template rest h fun j hj => ?_
    rw [Bool.eq_false_iff]
    intro hl
    cases hst j hj hl _ rfl
  | .echo expr, h, template, rest, st, _ => by
    simp only [print, List.append_assoc]
    rw [reading_echo template _ h, reading_separator]
  | .choose arms none, h, template, rest, st, _ => by
    simp only [print, List.append_assoc]
    obtain ⟨before, c, body, line, rfl, hrun⟩ := reading_choose arms h.2 h.1 template
      (endChoiceWord ++ (separator ++ rest)) st
    rw [hrun, reading_endChoice template rest rfl, Head.close]
  | .choose arms (some last), h, template, rest, st, _ => by
    simp only [print, List.append_assoc]
    obtain ⟨before, c, body, line, rfl, hrun⟩ := reading_choose arms h.2.1 h.1 template
      (otherwiseWord ++ (separator ++ (printAll last ++ (endChoiceWord ++ (separator ++ rest))))) st
    rw [hrun, reading_otherwise, reading_printAll last h.2.2 template _ _ (goesOn_nil _),
      reading_endChoice template rest rfl, Head.close, List.append_nil, List.reverse_reverse]
  | .loop iterable key value body, h, template, rest, st, _ => by
    obtain ⟨hi, hk, hv, hb⟩ := h
    simp only [print, List.append_assoc, List.cons_append]
    obtain ⟨line, hrun⟩ := reading_loop template (printAll body ++ (endLoopWord ++ (separator ++ rest)))
      hi hk hv st
    rw [hrun, State.enter, reading_printAll body hb template _ _ (goesOn_nil _),
      reading_endLoop template rest rfl, Head.close, List.append_nil, List.reverse_reverse]
  | .stray _, h, _, _, _, _ => h.elim

theorem reading_choose : ∀ arms : List (Arm String), NormalArms arms → arms ≠ [] →
    ∀ (template rest : List Char) (st : State), ∃ before c body line,
      before ++ [.mk c body.reverse] = arms ∧
      reading template (printArms choiceWord arms ++ rest) st =
        reading template rest ⟨body, ⟨.arm before c, line, st.body⟩ :: st.blocks⟩
  | [], _, hne, _, _, _ => absurd rfl hne
  | .mk cond inner :: arms, h, _, template, rest, st => by
    obtain ⟨hc, hb, ha⟩ := h
    simp only [printArms, printArm, List.append_assoc, List.cons_append]
    obtain ⟨line, hrun⟩ := reading_choice template
      (printAll inner ++ (printArms furtherWord arms ++ rest)) hc st
    obtain ⟨before, c, body, heq, hmore⟩ := reading_further_arms arms ha template rest
      (inner.reverse ++ []) st.body [] cond line st.blocks
    refine ⟨before, c, body, line, by simpa using heq, ?_⟩
    rw [hrun, State.enter, reading_printAll inner hb template _ _ (goesOn_nil _), hmore]

theorem reading_further_arms : ∀ arms : List (Arm String), NormalArms arms →
    ∀ (template rest : List Char) (body around : Body) (before : List (Arm String)) (c : String) (line : Nat)
      (blocks : List Open),
    ∃ before' c' body', before' ++ [.mk c' body'.reverse] = before ++ .mk c body.reverse :: arms ∧
      reading template (printArms furtherWord arms ++ rest)
          ⟨body, ⟨.arm before c, line, around⟩ :: blocks⟩ =
        reading template rest ⟨body', ⟨.arm before' c', line, around⟩ :: blocks⟩
  | [], _, template, rest, body, around, before, c, line, blocks => ⟨before, c, body, rfl, rfl⟩
  | .mk cond inner :: arms, h, template, rest, body, around, before, c, line, blocks => by
    obtain ⟨hc, hb, ha⟩ := h
    simp only [printArms, printArm, List.append_assoc, List.cons_append]
    obtain ⟨before', c', body', heq, hmore⟩ := reading_further_arms arms ha template rest
      (inner.reverse ++ []) around (before ++ [.mk c body.reverse]) cond line blocks
    refine ⟨before', c', body', by simpa using heq, ?_⟩
    rw [reading_further template _ hc, reading_printAll inner hb template _ _ (goesOn_nil _), hmore]

theorem reading_printAll : ∀ body : List (Instruction String), NormalAll body →
    ∀ (template rest : List Char) (st : State), GoesOn st.body body →
    reading template (printAll body ++ rest) st =
      reading template rest ⟨body.reverse ++ st.body, st.blocks⟩
  | [], _, template, rest, st, _ => rfl
  | i :: body, h, template, rest, st, hst => by
    obtain ⟨hi, hapart, hb⟩ := h
    rw [printAll, List.append_assoc, reading_print i hi template _ st fun j hj => hst j hj i rfl]
    rw [reading_printAll body hb template rest]
    · simp
    · intro j hj k hk
      obtain rfl := Option.some.inj hj
      intro hl k' hk'
      obtain rfl := Option.some.inj hk'
      exact hapart hl k hk

end

theorem parse_print {body : Body} (h : NormalAll body) : parse (printAll body) = .ok body := by
  have hread := reading_printAll body h (printAll body) [] ⟨[], []⟩ (goesOn_nil _)
  rw [List.append_nil, List.append_nil] at hread
  have hend : reading (printAll body) [] ⟨body.reverse, []⟩ = .ok ⟨body.reverse, []⟩ := by
    rw [reading, piecesFrom_end rfl]
    rfl
  rw [parse, tree, pieces]
  change reading (printAll body) (printAll body) ⟨[], []⟩ >>= State.finish = _
  rw [hread, hend]
  exact congrArg Except.ok (List.reverse_reverse body)

theorem expand_print (resolve : Resolver) {body : Body} (h : NormalAll body) :
    expand resolve (printAll body) = .ok (printAll body) := by
  have hfree := free_printAll body h [] ⟨by decide⟩
  rw [List.append_nil] at hfree
  exact expand_free hfree

/-- Every tree in normal form is the tree of a template: of what it is printed as, whatever includes are
resolved with. -/
theorem parseText_print (resolve : Resolver) {body : Body} (h : NormalAll body) :
    parseText resolve (String.ofList (printAll body)) = .ok body := by
  rw [parseText, String.toList_ofList, expand_print resolve h]
  exact parse_print h

theorem parseText_print_sample :
    let body : Body := [.literal "@if(",
      .choose [.mk "f(')')" [.loop "xs" (some "k") "v" [.echo "v"]], .mk "y" []] (some [])]
    NormalAll body ∧ parseText none (String.ofList (printAll body)) = .ok body := by
  intro body
  have hf : ArgumentText "f(')')".toList := ⟨by decide, by decide, rfl, ⟨by decide⟩⟩
  have hy : ArgumentText "y".toList := ⟨by decide, by decide, rfl, ⟨by decide⟩⟩
  have hxs : ArgumentText "xs".toList := ⟨by decide, by decide, rfl, ⟨by decide⟩⟩
  have hv : EchoText "v".toList := ⟨by decide, by decide, by decide, by decide, ⟨by decide⟩⟩
  have hbody : NormalAll body := by
    simp [body, NormalAll, Normal, NormalArms, Apart, isLiteral, IsName]
    exact ⟨hf, ⟨hxs, by decide, by decide, hv⟩, hy⟩
  exact ⟨hbody, parseText_print none hbody⟩

end Stencil.Template
