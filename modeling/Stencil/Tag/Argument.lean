import Stencil.Text.Blank
/-!
# Arguments of tags

The argument of a tag ends at the parenthesis that closes the one before it. Parentheses inside quotes
do not count, and inside quotes a backslash protects the character after it.
-/

namespace Stencil.Tag

open Text

def isQuote (c : Char) : Bool := c == '\'' || c == '"'

/-- The text before the closing parenthesis and the text after it, with `depth` further parentheses
open, and inside a quoted stretch when there is a `quote`. -/
def closeArgument? : (depth : Nat) → (quote : Option Char) → List Char →
    Option (List Char × List Char)
  | _, _, [] => none
  | depth, some q, '\\' :: c :: rest =>
    (closeArgument? depth (some q) rest).map fun (raw, after) => ('\\' :: c :: raw, after)
  | depth, some q, c :: rest =>
    (closeArgument? depth (if c = q then none else some q) rest).map
      fun (raw, after) => (c :: raw, after)
  | depth, none, c :: rest =>
    if isQuote c then
      (closeArgument? depth (some c) rest).map fun (raw, after) => (c :: raw, after)
    else if c = '(' then
      (closeArgument? (depth + 1) none rest).map fun (raw, after) => (c :: raw, after)
    else if c = ')' then
      match depth with
      | 0 => some ([], rest)
      | depth + 1 => (closeArgument? depth none rest).map fun (raw, after) => (c :: raw, after)
    else (closeArgument? depth none rest).map fun (raw, after) => (c :: raw, after)

/-- The argument at the beginning of a text, without the white space around it, and the text after
its closing parenthesis. -/
def argument? (s : List Char) : Option (List Char × List Char) :=
  (closeArgument? 0 none s).map fun (raw, rest) => (trim raw, rest)

/-- The argument that begins at an offset, and the offset after its closing parenthesis. -/
def argumentAt? (text : List Char) (start : Nat) : Option (List Char × Nat) :=
  (argument? (text.drop start)).map fun (argument, rest) => (argument, text.length - rest.length)

theorem length_of_closeArgument? {depth : Nat} {quote : Option Char} {s raw rest : List Char}
    (h : closeArgument? depth quote s = some (raw, rest)) :
    s.length = raw.length + 1 + rest.length := by
  fun_induction closeArgument? depth quote s generalizing raw with
  | case1 => simp at h
  | case6 => simp_all; omega
  | _ =>
    rename_i ih
    obtain ⟨⟨raw, rest⟩, hr, h⟩ := Option.map_eq_some_iff.1 h
    simp at h
    obtain ⟨rfl, rfl⟩ := h
    have := ih hr
    simp only [List.length_cons]
    omega

theorem length_of_argument? {s argument rest : List Char}
    (h : argument? s = some (argument, rest)) : rest.length < s.length := by
  obtain ⟨⟨raw, rest⟩, hr, h⟩ := Option.map_eq_some_iff.1 h
  simp at h
  obtain ⟨rfl, rfl⟩ := h
  have := length_of_closeArgument? hr
  omega

end Stencil.Tag
