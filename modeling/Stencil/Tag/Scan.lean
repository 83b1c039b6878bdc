import Stencil.Tag.Rule
/-!
# Scanning for tags

The next tag is the leftmost one; of two rules that match at one place the first listed counts. The
scan goes on after each tag, so nothing inside a tag is read as another.
-/

namespace Stencil.Tag

def first? (rules : List Rule) (s : List Char) : Option Found := rules.findSome? (·.match? s)

theorem length_of_first? {rules : List Rule} {s : List Char} {f : Found}
    (h : first? rules s = some f) : f.rest.length < s.length := by
  obtain ⟨r, _, hr⟩ := List.exists_of_findSome?_eq_some h
  exact r.length_of_match? hr

def next? (rules : List Rule) : List Char → Option (List Char × Found)
  | [] => none
  | c :: rest =>
    match first? rules (c :: rest) with
    | some f => some ([], f)
    | none => (next? rules rest).map fun (gap, f) => (c :: gap, f)

theorem length_of_next? {rules : List Rule} {s gap : List Char} {f : Found}
    (h : next? rules s = some (gap, f)) : f.rest.length < s.length := by
  fun_induction next? rules s generalizing gap with
  | case1 => simp at h
  | case2 c s f' hf =>
    simp at h
    obtain ⟨rfl, rfl⟩ := h
    exact length_of_first? hf
  | case3 c s _ ih =>
    obtain ⟨⟨g, f'⟩, hg, h⟩ := Option.map_eq_some_iff.1 h
    simp at h
    obtain ⟨rfl, rfl⟩ := h
    have := ih hg
    simp only [List.length_cons]
    omega

/-- A tag with the offsets of its first character and of the character after it. -/
structure Token where
  rule : Rule
  start : Nat
  stop : Nat
  picked : List Char
deriving Repr, DecidableEq

def scanFrom (rules : List Rule) (offset : Nat) (s : List Char) : List Token :=
  match h : next? rules s with
  | none => []
  | some (gap, f) =>
    have := length_of_next? h
    let stop := offset + (s.length - f.rest.length)
    ⟨f.rule, offset + gap.length, stop, f.picked⟩ :: scanFrom rules stop f.rest
termination_by s.length

/-- All tags of a text. -/
def scan (rules : List Rule) (text : List Char) : List Token := scanFrom rules 0 text

end Stencil.Tag
