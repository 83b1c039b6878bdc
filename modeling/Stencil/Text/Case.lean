import Stencil.Text.CaseTable
import Stencil.Text.Bounds
/-!
# Letter case

Upper, lower and title case of whole texts, with the mappings that change the length of a text and
the two lower forms of the Greek sigma.
-/

namespace Stencil.Text

def CaseRun.image? (r : CaseRun) (n : Nat) : Option Nat :=
  if r.first ≤ n && n ≤ r.last && (n - r.first) % r.step == 0 then some ((n : Int) + r.shift).toNat
  else none

def mapCase (runs : List CaseRun) (long : List (Nat × List Nat)) (c : Char) : List Char :=
  match long.lookup c.toNat with
  | some ns => ns.map Char.ofNat
  | none => [((runs.findSome? (·.image? c.toNat)).map Char.ofNat).getD c]

def lowerChar (c : Char) : List Char :=
  if c.toNat < 128 then [c.toLower] else mapCase lowerRuns lowerLong c

def upperChar (c : Char) : List Char :=
  if c.toNat < 128 then [c.toUpper] else mapCase upperRuns upperLong c

def titleChar (c : Char) : List Char :=
  if c.toNat < 128 then [c.toUpper] else mapCase titleRuns titleLong c

def inRuns (runs : List (Nat × Nat × Nat)) (n : Nat) : Bool :=
  runs.any fun (first, last, step) => first ≤ n && n ≤ last && (n - first) % step == 0

def isLowerChar (c : Char) : Bool :=
  if c.toNat < 128 then 97 ≤ c.toNat && c.toNat ≤ 122 else inRuns lowerCased c.toNat

def isUpperChar (c : Char) : Bool :=
  if c.toNat < 128 then 65 ≤ c.toNat && c.toNat ≤ 90 else inRuns upperCased c.toNat

def isTitleChar (c : Char) : Bool := 128 ≤ c.toNat && inRuns titleCased c.toNat

def isCased (c : Char) : Bool := isLowerChar c || isUpperChar c || isTitleChar c

def isCaseIgnorable (c : Char) : Bool := inside caseIgnorableBounds c.toNat

def meetsCased (s : List Char) : Bool := ((s.dropWhile isCaseIgnorable).head?.map isCased).getD false

/-- The lower case of a character between the text before it, latest first, and the text after it:
a sigma that ends a word has its own form. -/
def lowerAt (before : List Char) (c : Char) (after : List Char) : List Char :=
  if c.toNat == 0x3A3 then
    [if meetsCased before && !meetsCased after then Char.ofNat 0x3C2 else Char.ofNat 0x3C3]
  else lowerChar c

def lowerFrom (before : List Char) : List Char → List Char
  | [] => []
  | c :: rest => lowerAt before c rest ++ lowerFrom (c :: before) rest

def lower (s : List Char) : List Char := lowerFrom [] s

def upper (s : List Char) : List Char := s.flatMap upperChar

def capitalize : List Char → List Char
  | [] => []
  | c :: rest => titleChar c ++ lowerFrom [c] rest

/-- Title case, given the text before, latest first: a character after one with case is in lower
case. -/
def titleFrom (before : List Char) : List Char → List Char
  | [] => []
  | c :: rest =>
    let here := if (before.head?.map isCased).getD false then lowerAt before c rest else titleChar c
    here ++ titleFrom (c :: before) rest

def title (s : List Char) : List Char := titleFrom [] s

def isLower (s : List Char) : Bool :=
  s.any isLowerChar && s.all fun c => !(isUpperChar c || isTitleChar c)

def isUpper (s : List Char) : Bool :=
  s.any isUpperChar && s.all fun c => !(isLowerChar c || isTitleChar c)

end Stencil.Text
