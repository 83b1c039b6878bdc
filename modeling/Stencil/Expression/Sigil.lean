import Stencil.Text.Word
/-!
# Sigils

A dollar sign before a name marks a variable and is dropped. Quoted texts are kept as they are: a quote
that is closed, with every backslash in it before another character of the same line.
-/

namespace Stencil.Expression

open Text

/-- A quoted text after its opening quote, up to and with the closing one, and what follows. -/
def closeQuote? (q : Char) : List Char → Option (List Char × List Char)
  | [] => none
  | '\\' :: [] => none
  | '\\' :: c :: rest =>
    if c = '\n' then none
    else (closeQuote? q rest).map fun (body, after) => ('\\' :: c :: body, after)
  | c :: rest =>
    if c = q then some ([c], rest)
    else (closeQuote? q rest).map fun (body, after) => (c :: body, after)

theorem length_of_closeQuote? {q : Char} {s body rest : List Char}
    (h : closeQuote? q s = some (body, rest)) : rest.length < s.length := by
  fun_induction closeQuote? q s generalizing body with
  | case1 => simp at h
  | case2 => simp at h
  | case3 => simp at h
  | case5 => simp_all
  | _ =>
    rename_i ih
    obtain ⟨⟨b, r⟩, hr, h⟩ := Option.map_eq_some_iff.1 h
    simp at h
    obtain ⟨rfl, rfl⟩ := h
    have := ih hr
    simp only [List.length_cons]
    omega

def startsName (s : List Char) : Bool := (s.head?.map isNameStart).getD false

/-- An expression without its sigils. -/
def stripSigils (s : List Char) : List Char :=
  match s with
  | [] => []
  | c :: rest =>
    if c = '\'' || c = '"' then
      match h : closeQuote? c rest with
      | some (body, after) =>
        have := length_of_closeQuote? h
        c :: (body ++ stripSigils after)
      | none => c :: stripSigils rest
    else if c = '$' && startsName rest then stripSigils rest
    else c :: stripSigils rest
termination_by s.length
decreasing_by all_goals simp; try omega

end Stencil.Expression
