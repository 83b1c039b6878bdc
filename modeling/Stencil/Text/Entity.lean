/-!
# Entities

The five characters that have a meaning in markup are replaced by entities, one character after the other
and the ampersand first, so that no ampersand of an entity is replaced again.
-/

namespace Stencil.Text

def replaceChar (c : Char) (by_ : List Char) (s : List Char) : List Char :=
  s.flatMap fun d => if d = c then by_ else [d]

/-- The characters that are replaced, in this order, by named entities and a number in base sixteen. -/
def namedEntities : List (Char × List Char) := [
  ('&', "&amp;".toList), ('<', "&lt;".toList), ('>', "&gt;".toList), ('"', "&quot;".toList),
  ('\'', "&#x27;".toList)]

def numberedEntities : List (Char × List Char) := [
  ('&', "&amp;".toList), ('<', "&lt;".toList), ('>', "&gt;".toList), ('\'', "&#39;".toList),
  ('"', "&#34;".toList)]

def replaceAll (table : List (Char × List Char)) (s : List Char) : List Char :=
  table.foldl (fun s (c, entity) => replaceChar c entity s) s

/-- A text for markup. -/
def escape (s : List Char) : List Char := replaceAll namedEntities s

def escapeByNumbers (s : List Char) : List Char := replaceAll numberedEntities s

end Stencil.Text
