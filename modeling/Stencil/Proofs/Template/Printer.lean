import Stencil.Proofs.Tag.Argument
import Stencil.Proofs.Tag.Split
import Stencil.Proofs.Tag.Scan
import Stencil.Proofs.Template.Inclusion
import Stencil.Template.Instruction
/-!
# Printing trees

A tree is printed as a template, with a separator after each tag and after each character of a text. The
trees in normal form are those that are read back from what they are printed as.
-/

namespace Stencil.Template

open Text Tag

mutual

def print : Instruction String → List Char
  | .literal s => s.toList.flatMap fun c => c :: separator
  | .echo expr => echoHead ++ (expr.toList ++ (echoTail ++ separator))
  | .choose arms none => printArms choiceWord arms ++ (endChoiceWord ++ separator)
  | .choose arms (some body) =>
    printArms choiceWord arms ++
      (otherwiseWord ++ (separator ++ (printAll body ++ (endChoiceWord ++ separator))))
  | .loop iterable key value body =>
    loopWord ++ (iterable.toList ++ (printBinding (key.map String.toList) value.toList ++
      ')' :: (separator ++ (printAll body ++ (endLoopWord ++ separator)))))
  | .stray _ => []

def printArm (word : List Char) : Arm String → List Char
  | .mk cond body => word ++ (cond.toList ++ ')' :: (separator ++ printAll body))

def printArms (word : List Char) : List (Arm String) → List Char
  | [] => []
  | arm :: rest => printArm word arm ++ printArms furtherWord rest

def printAll : List (Instruction String) → List Char
  | [] => []
  | i :: rest => print i ++ printAll rest

end

structure EchoText (expr : List Char) : Prop where
  nonempty : expr ≠ []
  trimmed : trim expr = expr
  oneLine : '\n' ∉ expr
  unended : ¬echoEnd <:+: expr
  plain : Free expr

/-- A condition or the subject of a loop that stands in its tag as it is. -/
structure ArgumentText (argument : List Char) : Prop where
  nonempty : argument ≠ []
  trimmed : trim argument = argument
  complete : Complete argument
  plain : Free argument

def isLiteral : Instruction String → Bool
  | .literal _ => true
  | _ => false

/-- Two texts do not meet where a body goes on with more instructions. -/
def Apart (i : Instruction String) (next : Option (Instruction String)) : Prop :=
  isLiteral i = true → ∀ j ∈ next, isLiteral j = false

mutual

/-- An instruction without empty texts, texts side by side, choices without arms or expressions that
cannot stand where they are. -/
def Normal : Instruction String → Prop
  | .literal s => s ≠ ""
  | .echo expr => EchoText expr.toList
  | .choose arms none => arms ≠ [] ∧ NormalArms arms
  | .choose arms (some body) => arms ≠ [] ∧ NormalArms arms ∧ NormalAll body
  | .loop iterable key value body =>
    ArgumentText iterable.toList ∧ (∀ k ∈ key, IsName k.toList) ∧ IsName value.toList ∧ NormalAll body
  | .stray _ => False

def NormalArms : List (Arm String) → Prop
  | [] => True
  | .mk cond body :: rest => ArgumentText cond.toList ∧ NormalAll body ∧ NormalArms rest

/-- Instructions in normal form, in which no two texts stand side by side. -/
def NormalAll : List (Instruction String) → Prop
  | [] => True
  | i :: rest => Normal i ∧ Apart i rest.head? ∧ NormalAll rest

end

theorem free_separator {s : List Char} (h : Free s) : Free (separator ++ s) := h.append (by decide)

theorem free_char (c : Char) {s : List Char} (h : Free s) : Free (c :: (separator ++ s)) := by
  have hc : Free [c] := by
    constructor
    intro hi
    have hlen : includeMark.length ≤ 1 := hi.length_le
    exact absurd hlen (by decide)
  exact hc.join (x := '\x7b') (by decide) (h.append (w := ['-', '-', '\n', '-', '-', '\x7d']) (by decide))

theorem free_tag {u v s : List Char} {x : Char} (hx : x ∉ includeMark) (hu : Free u) (hv : '@' ∉ v)
    (h : Free s) : Free (u ++ x :: v ++ s) := by
  rw [List.append_assoc]
  exact hu.join hx (h.append hv)

theorem at_not_mem_name {name : List Char} (h : IsName name) : '@' ∉ name := by
  intro hc
  exact absurd (h.isWord _ hc) (by decide)

theorem at_not_mem_binding {key : Option (List Char)} {value : List Char} (hk : ∀ k ∈ key, IsName k)
    (hv : IsName value) : '@' ∉ printBinding key value := by
  cases key with
  | none =>
    simp only [printBinding, List.mem_append, not_or]
    exact ⟨by decide, at_not_mem_name hv⟩
  | some k =>
    simp only [printBinding, List.mem_append, not_or]
    exact ⟨by decide, at_not_mem_name (hk k rfl), by decide, at_not_mem_name hv⟩

theorem names_of_field {key : Option String} (h : ∀ k ∈ key, IsName k.toList) :
    ∀ k ∈ key.map String.toList, IsName k := by
  intro k hk
  obtain ⟨name, hname, rfl⟩ := Option.map_eq_some_iff.1 hk
  exact h name hname

theorem free_endChoice {s : List Char} (h : Free s) : Free (endChoiceWord ++ (separator ++ s)) :=
  free_tag (u := "@endi".toList) (x := 'f') (v := []) (by decide) ⟨by decide⟩ (by decide)
    (free_separator h)

theorem free_otherwise {s : List Char} (h : Free s) : Free (otherwiseWord ++ (separator ++ s)) :=
  free_tag (u := "@el".toList) (x := 's') (v := ['e']) (by decide) ⟨by decide⟩ (by decide)
    (free_separator h)

theorem free_endLoop {s : List Char} (h : Free s) : Free (endLoopWord ++ (separator ++ s)) :=
  free_tag (u := "@end".toList) (x := 'f') (v := "oreach".toList) (by decide) ⟨by decide⟩ (by decide)
    (free_separator h)

theorem free_literal (t s : List Char) (h : Free s) :
    Free ((t.flatMap fun c => c :: separator) ++ s) := by
  induction t with
  | nil => exact h
  | cons c t ih =>
    rw [List.flatMap_cons, List.append_assoc, List.cons_append]
    exact free_char c ih

theorem free_echo {expr s : List Char} (he : EchoText expr) (h : Free s) :
    Free (echoHead ++ (expr ++ (echoTail ++ (separator ++ s)))) := by
  have hend : Free (['\x7d', '\x7d'] ++ (separator ++ s)) := (free_separator h).append (by decide)
  have hexpr : Free (expr ++ ' ' :: (['\x7d', '\x7d'] ++ (separator ++ s))) :=
    he.plain.join (by decide) hend
  exact hexpr.append (by decide)

theorem free_loop {iterable value s : List Char} {key : Option (List Char)} (hi : ArgumentText iterable)
    (hk : ∀ k ∈ key, IsName k) (hv : IsName value) (h : Free s) :
    Free (loopWord ++ (iterable ++ (printBinding key value ++ ')' :: (separator ++ s)))) := by
  have hclose : Free (')' :: (separator ++ s)) := (free_separator h).cons (by decide)
  have hbinding : Free (printBinding key value ++ ')' :: (separator ++ s)) :=
    hclose.append (at_not_mem_binding hk hv)
  obtain ⟨t, ht⟩ := printBinding_eq_cons key value
  have hiter : Free (iterable ++ (printBinding key value ++ ')' :: (separator ++ s))) := by
    rw [ht] at hbinding ⊢
    exact hi.plain.join (by decide) hbinding.tail
  exact free_tag (u := ['@']) (x := 'f') (v := "oreach(".toList) (by decide) ⟨by decide⟩ (by decide) hiter

theorem free_arm {word cond s : List Char} (hword : word = choiceWord ∨ word = furtherWord)
    (hc : ArgumentText cond) (h : Free s) : Free (word ++ (cond ++ ')' :: (separator ++ s))) := by
  have hcond : Free (cond ++ ')' :: (separator ++ s)) := hc.plain.join (by decide) (free_separator h)
  rcases hword with rfl | rfl
  · exact free_tag (u := ['@', 'i']) (x := 'f') (v := ['(']) (by decide) ⟨by decide⟩ (by decide) hcond
  · exact free_tag (u := "@el".toList) (x := 's') (v := "eif(".toList) (by decide) ⟨by decide⟩
      (by decide) hcond

mutual

theorem free_print : ∀ i : Instruction String, Normal i → ∀ s, Free s → Free (print i ++ s)
  | .literal t, _, s, hs => by
    rw [print]
    exact free_literal t.toList s hs
  | .echo expr, h, s, hs => by
    simp only [print, List.append_assoc]
    exact free_echo h hs
  | .choose arms none, h, s, hs => by
    simp only [print, List.append_assoc]
    exact free_printArms _ (.inl rfl) arms h.2 _ (free_endChoice hs)
  | .choose arms (some body), h, s, hs => by
    simp only [print, List.append_assoc]
    exact free_printArms _ (.inl rfl) arms h.2.1 _
      (free_otherwise (free_printAll body h.2.2 _ (free_endChoice hs)))
  | .loop iterable key value body, h, s, hs => by
    obtain ⟨hi, hk, hv, hb⟩ := h
    simp only [print, List.append_assoc, List.cons_append]
    exact free_loop hi (names_of_field hk) hv (free_printAll body hb _ (free_endLoop hs))
  | .stray _, h, _, _ => h.elim

theorem free_printArms (word : List Char) (hword : word = choiceWord ∨ word = furtherWord) :
    ∀ arms : List (Arm String), NormalArms arms → ∀ s, Free s → Free (printArms word arms ++ s)
  | [], _, s, hs => hs
  | .mk cond body :: rest, h, s, hs => by
    simp only [printArms, printArm, List.append_assoc, List.cons_append]
    have hrest := free_printArms _ (.inr rfl) rest h.2.2 s hs
    exact free_arm hword h.1 (free_printAll body h.2.1 _ hrest)

theorem free_printAll : ∀ body : List (Instruction String), NormalAll body → ∀ s, Free s →
    Free (printAll body ++ s)
  | [], _, s, hs => hs
  | i :: rest, h, s, hs => by
    rw [printAll, List.append_assoc]
    exact free_print i h.1 _ (free_printAll rest h.2.2 s hs)

end

end Stencil.Template
