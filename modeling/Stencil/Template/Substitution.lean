import Stencil.Text.Blank
import Stencil.Text.Lead
/-!
# Substitution

Plain templates have no tags but slots: a key between two pairs of braces. A slot whose key has a value
is replaced by the text of the value as it is, and every other slot stays as it is written.
-/

namespace Stencil.Template

open Text

def isKeyChar (c : Char) : Bool :=
  let n := c.toNat
  (48 ≤ n && n ≤ 57) || (65 ≤ n && n ≤ 90) || (97 ≤ n && n ≤ 122) || c == '_' || c == '-'

def slot? (s : List Char) : Option (List Char × List Char) := do
  let inner ← after? ['\x7b', '\x7b'] s
  let start := dropBlanks inner
  let key := start.takeWhile isKeyChar
  if key.isEmpty then none
  else
    let rest ← after? ['\x7d', '\x7d'] (dropBlanks (start.dropWhile isKeyChar))
    some (key, rest)

theorem length_of_slot? {s key rest : List Char} (h : slot? s = some (key, rest)) :
    rest.length < s.length := by
  simp only [slot?, Option.bind_eq_bind, Option.bind_eq_some_iff] at h
  obtain ⟨inner, hi, h⟩ := h
  split at h
  · simp at h
  · obtain ⟨rest', hr, h⟩ := Option.bind_eq_some_iff.1 h
    simp at h
    obtain ⟨rfl, rfl⟩ := h
    have h1 := length_of_after? hi
    have h2 := length_of_after? hr
    have h3 := (List.dropWhile_sublist isBlank (l := (dropBlanks inner).dropWhile isKeyChar)).length_le
    have h4 := (List.dropWhile_sublist isKeyChar (l := dropBlanks inner)).length_le
    have h5 := (List.dropWhile_sublist isBlank (l := inner)).length_le
    simp only [dropBlanks, List.length_cons, List.length_nil] at *
    omega

section

variable {m : Type → Type} [Monad m]

/-- A text with its slots replaced; `value?` gives the text for a key. -/
def substitute (value? : String → m (Option String)) (s : List Char) : m (List Char) :=
  match s with
  | [] => pure []
  | c :: after =>
    match _h : slot? (c :: after) with
    | some (key, rest) => do
      let written := (c :: after).take ((c :: after).length - rest.length)
      let value ← value? (String.ofList key)
      let more ← substitute value? rest
      pure ((value.map String.toList).getD written ++ more)
    | none => do
      let more ← substitute value? after
      pure (c :: more)
termination_by s.length
decreasing_by
  · exact length_of_slot? _h
  · simp

end

end Stencil.Template
