import Stencil.Text.Blank
import Stencil.Text.Search
import Stencil.Text.Word
/-!
# Rules for tags

A tag begins with a brace or an at sign. Each rule says which text at the beginning of a suffix makes up
its tag; a rule that takes an argument finds the text up to the opening parenthesis.
-/

namespace Stencil.Tag

open Text

inductive Rule where
  | inclusion
  | echo
  | choice
  | further
  | otherwise
  | endChoice
  | loop
  | endLoop
  | comment
deriving Repr, DecidableEq

def Rule.name : Rule → String
  | .inclusion => "include"
  | .echo => "echo"
  | .choice => "if"
  | .further => "elseif"
  | .otherwise => "else"
  | .endChoice => "endif"
  | .loop => "foreach"
  | .endLoop => "endforeach"
  | .comment => "comment"

def allRules : List Rule :=
  [.inclusion, .echo, .choice, .further, .otherwise, .endChoice, .loop, .endLoop, .comment]

def scanRules : List Rule := allRules.filter (· ≠ .inclusion)

def Rule.ofName? (name : String) : Option Rule := allRules.find? fun r => r.name == name

def Rule.takesArgument : Rule → Bool
  | .inclusion | .choice | .further | .loop => true
  | _ => false

/-- A tag at the beginning of a text: its rule, what the rule picks out of it (the expression of an
echo, the word glued to an else), and the text after it. -/
structure Found where
  rule : Rule
  picked : List Char
  rest : List Char
deriving Repr, DecidableEq

def echoEnd : List Char := ['\x7d', '\x7d']

/-- The shortest expression, on one line, that white space and the end of an echo follow. -/
def echoBody? : List Char → Option (List Char × List Char)
  | [] => none
  | c :: rest =>
    if c = '\n' then none
    else
      match after? echoEnd (dropBlanks rest) with
      | some after => some ([c], after)
      | none => (echoBody? rest).map fun (body, after) => (c :: body, after)

def lastInline? (blanks : List Char) : Option Char := (blanks.filter (· ≠ '\n')).getLast?

/-- An echo after its opening braces. White space around the expression does not belong to it, unless
there is nothing else: then its last character on a line does. -/
def echoAfter? (s : List Char) : Option (List Char × List Char) :=
  match echoBody? (dropBlanks s) with
  | some found => some found
  | none =>
    match after? echoEnd (dropBlanks s), lastInline? (s.takeWhile isBlank) with
    | some after, some c => some ([c], after)
    | _, _ => none

def wholeWord? (word s : List Char) : Option (List Char) :=
  (after? word s).filter fun rest => !(rest.head?.map isWord).getD false

def Rule.match? (r : Rule) (s : List Char) : Option Found :=
  match r with
  | .inclusion => (after? "@include(".toList s).map (⟨r, [], ·⟩)
  | .echo => do
    let rest ← after? ['\x7b', '\x7b'] s
    let (body, after) ← echoAfter? rest
    some ⟨r, body, after⟩
  | .choice => (after? "@if(".toList s).map (⟨r, [], ·⟩)
  | .further => (after? "@elseif(".toList s).map (⟨r, [], ·⟩)
  | .otherwise =>
    (after? "@else".toList s).map fun rest => ⟨r, rest.takeWhile isWord, rest.dropWhile isWord⟩
  | .endChoice => (wholeWord? "@endif".toList s).map (⟨r, [], ·⟩)
  | .loop => (after? "@foreach(".toList s).map (⟨r, [], ·⟩)
  | .endLoop => (wholeWord? "@endforeach".toList s).map (⟨r, [], ·⟩)
  | .comment => do
    let rest ← after? ['\x7b', '-', '-'] s
    let (_, after) ← cut? ['-', '-', '\x7d'] rest
    some ⟨r, [], after⟩

theorem length_dropBlanks_le (s : List Char) : (dropBlanks s).length ≤ s.length :=
  (List.dropWhile_sublist isBlank).length_le

theorem length_of_echoBody? {s body rest : List Char} (h : echoBody? s = some (body, rest)) :
    rest.length < s.length := by
  fun_induction echoBody? s generalizing body rest with
  | case1 => simp at h
  | case2 => simp at h
  | case3 c s _ after ha =>
    have := length_of_after? ha
    have := length_dropBlanks_le s
    simp at h
    obtain ⟨rfl, rfl⟩ := h
    simp only [List.length_cons]
    omega
  | case4 c s _ _ ih =>
    obtain ⟨⟨b, r⟩, hb, h⟩ := Option.map_eq_some_iff.1 h
    simp at h
    obtain ⟨rfl, rfl⟩ := h
    have := ih hb
    simp only [List.length_cons]
    omega

theorem length_of_echoAfter? {s body rest : List Char} (h : echoAfter? s = some (body, rest)) :
    rest.length ≤ s.length := by
  have hs := length_dropBlanks_le s
  unfold echoAfter? at h
  split at h
  · next found hf =>
    obtain rfl := Option.some.inj h
    have := length_of_echoBody? hf
    omega
  · split at h
    · next after c ha _ =>
      simp at h
      obtain ⟨rfl, rfl⟩ := h
      have := length_of_after? ha
      omega
    · simp at h

theorem length_of_cut? {sub s before rest : List Char} (h : cut? sub s = some (before, rest)) :
    rest.length ≤ s.length := by
  fun_induction cut? sub s generalizing before with
  | case1 => simp_all
  | case2 => simp at h
  | case3 c s after ha =>
    simp at h
    obtain ⟨rfl, rfl⟩ := h
    have := length_of_after? ha
    simp only [List.length_cons] at this ⊢
    omega
  | case4 c s _ ih =>
    obtain ⟨⟨b, r⟩, hb, h⟩ := Option.map_eq_some_iff.1 h
    simp at h
    obtain ⟨rfl, rfl⟩ := h
    have := ih hb
    simp only [List.length_cons]
    omega

theorem Rule.length_of_match? {r : Rule} {s : List Char} {f : Found} (h : r.match? s = some f) :
    f.rest.length < s.length := by
  have lead {word : List Char} {g : List Char → Found} (hg : ∀ t, (g t).rest.length ≤ t.length)
      (hw : word ≠ []) (h : (after? word s).map g = some f) : f.rest.length < s.length := by
    obtain ⟨rest, ha, rfl⟩ := Option.map_eq_some_iff.1 h
    have := length_of_after? ha
    have := hg rest
    have := List.length_pos_iff.2 hw
    omega
  have whole {word : List Char} {g : List Char → Found} (hg : ∀ t, (g t).rest.length ≤ t.length)
      (hw : word ≠ []) (h : (wholeWord? word s).map g = some f) : f.rest.length < s.length := by
    obtain ⟨rest, ha, rfl⟩ := Option.map_eq_some_iff.1 h
    have := length_of_after? (Option.filter_eq_some_iff.1 ha).1
    have := hg rest
    have := List.length_pos_iff.2 hw
    omega
  cases r with
  | inclusion => exact lead (fun _ => Nat.le_refl _) (by decide) h
  | choice => exact lead (fun _ => Nat.le_refl _) (by decide) h
  | further => exact lead (fun _ => Nat.le_refl _) (by decide) h
  | loop => exact lead (fun _ => Nat.le_refl _) (by decide) h
  | otherwise =>
    exact lead (fun t => (List.dropWhile_sublist isWord).length_le) (by decide) h
  | endChoice => exact whole (fun _ => Nat.le_refl _) (by decide) h
  | endLoop => exact whole (fun _ => Nat.le_refl _) (by decide) h
  | echo =>
    simp only [match?, Option.bind_eq_bind, Option.bind_eq_some_iff] at h
    obtain ⟨rest, ha, ⟨body, after⟩, hb, h⟩ := h
    obtain rfl := Option.some.inj h
    have := length_of_after? ha
    have := length_of_echoAfter? hb
    simp at *
    omega
  | comment =>
    simp only [match?, Option.bind_eq_bind, Option.bind_eq_some_iff] at h
    obtain ⟨rest, ha, ⟨body, after⟩, hb, h⟩ := h
    obtain rfl := Option.some.inj h
    have := length_of_after? ha
    have := length_of_cut? hb
    simp at *
    omega

end Stencil.Tag
