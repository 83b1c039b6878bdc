import Stencil.Proofs.Text.Class
import Stencil.Tag.Scan
/-!
# Tags that are found

A comment of two lines ends every text before it: no tag reaches into it, and it is found after any one
character. Tags followed by such a comment are found as they are spelled.
-/

namespace Stencil.Tag

open Text

def separator : List Char := ['\x7b', '-', '-', '\n', '-', '-', '\x7d']

def echoHead : List Char := "\x7b\x7b ".toList

def echoTail : List Char := " \x7d\x7d".toList

def choiceWord : List Char := "@if(".toList

def furtherWord : List Char := "@elseif(".toList

def otherwiseWord : List Char := "@else".toList

def endChoiceWord : List Char := "@endif".toList

def loopWord : List Char := "@foreach(".toList

def endLoopWord : List Char := "@endforeach".toList

theorem next?_of_first? {rules : List Rule} {s : List Char} {f : Found} (h : first? rules s = some f)
    (hne : s ≠ []) : next? rules s = some ([], f) := by
  cases s with
  | nil => exact absurd rfl hne
  | cons c rest => rw [next?, h]

theorem next?_separator (rest : List Char) :
    next? scanRules (separator ++ rest) = some ([], ⟨.comment, [], rest⟩) :=
  next?_of_first? rfl (List.cons_ne_nil _ _)

theorem first?_before_separator (c : Char) (rest : List Char) :
    first? scanRules (c :: (separator ++ rest)) = none := by
  by_cases ho : c = '\x7b'
  · subst ho
    rfl
  · by_cases ha : c = '@'
    · subst ha
      rfl
    · simp [first?, scanRules, allRules, Rule.match?, wholeWord?, after?, Ne.symm ho, Ne.symm ha]

theorem next?_char (c : Char) (rest : List Char) :
    next? scanRules (c :: (separator ++ rest)) = some ([c], ⟨.comment, [], rest⟩) := by
  rw [next?, first?_before_separator, next?_separator]
  rfl

theorem next?_choice (rest : List Char) :
    next? scanRules (choiceWord ++ rest) = some ([], ⟨.choice, [], rest⟩) :=
  next?_of_first? rfl (List.cons_ne_nil _ _)

theorem next?_further (rest : List Char) :
    next? scanRules (furtherWord ++ rest) = some ([], ⟨.further, [], rest⟩) :=
  next?_of_first? rfl (List.cons_ne_nil _ _)

theorem next?_otherwise (rest : List Char) :
    next? scanRules (otherwiseWord ++ (separator ++ rest)) =
      some ([], ⟨.otherwise, [], separator ++ rest⟩) :=
  next?_of_first? rfl (List.cons_ne_nil _ _)

theorem next?_endChoice (rest : List Char) :
    next? scanRules (endChoiceWord ++ (separator ++ rest)) =
      some ([], ⟨.endChoice, [], separator ++ rest⟩) :=
  next?_of_first? rfl (List.cons_ne_nil _ _)

theorem next?_loop (rest : List Char) :
    next? scanRules (loopWord ++ rest) = some ([], ⟨.loop, [], rest⟩) :=
  next?_of_first? rfl (List.cons_ne_nil _ _)

theorem next?_endLoop (rest : List Char) :
    next? scanRules (endLoopWord ++ (separator ++ rest)) =
      some ([], ⟨.endLoop, [], separator ++ rest⟩) :=
  next?_of_first? rfl (List.cons_ne_nil _ _)

theorem after?_echoEnd {s rest : List Char} (hne : s ≠ []) (hlast : Stops isBlank s.reverse)
    (hend : ¬echoEnd <:+: s) : after? echoEnd (dropBlanks (s ++ ' ' :: rest)) = none := by
  have hdrop : dropBlanks s ≠ [] := by
    intro h
    obtain ⟨b, hb, hs⟩ := dropBlanks_split s
    rw [h, List.append_nil] at hs
    exact not_blank_of_stops hne hlast (hs ▸ hb)
  have happend : dropBlanks (s ++ ' ' :: rest) = dropBlanks s ++ ' ' :: rest := by
    have hempty : ¬(s.dropWhile isBlank).isEmpty = true := by
      rw [List.isEmpty_iff]
      exact hdrop
    rw [dropBlanks, List.dropWhile_append, if_neg hempty]
    rfl
  rw [happend, Option.eq_none_iff_forall_ne_some]
  intro after h
  have heq := after?_eq_some_iff.1 h
  obtain ⟨x, t, hx⟩ := List.exists_cons_of_ne_nil hdrop
  rw [hx] at heq
  obtain ⟨hfirst, htail⟩ := List.cons.inj heq
  cases t with
  | nil => exact absurd (List.cons.inj htail).1 (by decide)
  | cons y t =>
    obtain ⟨hsecond, -⟩ := List.cons.inj htail
    subst hfirst hsecond
    apply hend
    have hsuffix : dropBlanks s <:+: s := (List.dropWhile_suffix isBlank).isInfix
    rw [hx] at hsuffix
    exact (List.prefix_append echoEnd t).isInfix.trans hsuffix

theorem echoBody?_print {expr : List Char} (rest : List Char) (hne : expr ≠ [])
    (hlast : Stops isBlank expr.reverse) (hline : '\n' ∉ expr) (hend : ¬echoEnd <:+: expr) :
    echoBody? (expr ++ ' ' :: (echoEnd ++ rest)) = some (expr, rest) := by
  induction expr with
  | nil => exact absurd rfl hne
  | cons c more ih =>
    have hc : c ≠ '\n' := fun h => hline (h ▸ List.mem_cons_self)
    rw [List.cons_append, echoBody?, if_neg hc]
    cases more with
    | nil => rfl
    | cons d more =>
      have hrev : Stops isBlank (d :: more).reverse := by
        intro x hx
        apply hlast x
        rw [List.reverse_cons, List.head?_append, Option.mem_def.1 hx]
        rfl
      have hinner : ¬echoEnd <:+: d :: more := fun h =>
        hend (h.trans (List.suffix_cons c (d :: more)).isInfix)
      rw [after?_echoEnd (List.cons_ne_nil d more) hrev hinner]
      rw [ih (List.cons_ne_nil d more) hrev (fun h => hline (List.mem_cons_of_mem _ h)) hinner]
      rfl

theorem next?_echo {expr : List Char} (rest : List Char) (hne : expr ≠ []) (htrim : trim expr = expr)
    (hline : '\n' ∉ expr) (hend : ¬echoEnd <:+: expr) :
    next? scanRules (echoHead ++ (expr ++ (echoTail ++ rest))) =
      some ([], ⟨.echo, expr, rest⟩) := by
  obtain ⟨hfirst, hlast⟩ := stops_of_trim htrim
  have hdrop : dropBlanks (' ' :: (expr ++ ' ' :: (echoEnd ++ rest))) = expr ++ ' ' :: (echoEnd ++ rest) := by
    obtain ⟨c, more, rfl⟩ := List.exists_cons_of_ne_nil hne
    exact dropWhile_append_stop (w := [' ']) (by simp [isBlank]) (stops_cons.2 (stops_cons.1 hfirst))
  have hafter : echoAfter? (' ' :: (expr ++ ' ' :: (echoEnd ++ rest))) = some (expr, rest) := by
    rw [echoAfter?, hdrop, echoBody?_print rest hne hlast hline hend]
  have hmatch : Rule.match? .echo ('\x7b' :: '\x7b' :: ' ' :: (expr ++ ' ' :: (echoEnd ++ rest))) =
      some ⟨.echo, expr, rest⟩ := by
    simp only [Rule.match?, after?, if_true, Option.bind_eq_bind, Option.bind_some, hafter]
  have hecho : first? scanRules ('\x7b' :: '\x7b' :: ' ' :: (expr ++ ' ' :: (echoEnd ++ rest))) =
      some ⟨.echo, expr, rest⟩ := by
    show List.findSome? _ (Rule.echo :: _) = _
    rw [List.findSome?_cons, hmatch]
  exact next?_of_first? hecho (List.cons_ne_nil _ _)

end Stencil.Tag
