import Stencil.Fault
import Stencil.Tag.Argument
import Stencil.Tag.Loop
import Stencil.Tag.Scan
import Stencil.Text.Line
/-!
# Pieces of a template

A template without includes is a sequence of pieces: stretches of plain text and tags with their
arguments read. The sequence ends at the first tag that is wrong by itself.
-/

namespace Stencil.Template

open Text Tag

inductive Mark where
  | comment
  | echo (expr : String)
  | choice (cond : String)
  | further (cond : String)
  | otherwise
  | endChoice
  | loop (iterable : String) (key : Option String) (value : String)
  | endLoop
deriving Repr, DecidableEq

/-- A part of a template. Tags carry the line on which they begin. -/
inductive Piece where
  | text (s : List Char)
  | mark (m : Mark) (line : Nat)
  | bad (cause : TagFault) (line : Nat)
deriving Repr, DecidableEq

/-- A loop from its argument. -/
def loopMark (argument : List Char) : Except TagFault Mark :=
  match loopHead? argument with
  | some head =>
    .ok (.loop (String.ofList head.iterable) (head.key.map String.ofList) (String.ofList head.value))
  | none => .error (.loopShape (String.ofList argument))

def markWith (r : Rule) (argument : List Char) : Except TagFault Mark :=
  if argument.isEmpty then .error (.emptyArgument r.name)
  else
    match r with
    | .loop => loopMark argument
    | .further => .ok (.further (String.ofList argument))
    | _ => .ok (.choice (String.ofList argument))

def markAlone (r : Rule) (picked : List Char) : Except TagFault Mark :=
  match r with
  | .echo => .ok (.echo (String.ofList picked))
  | .otherwise =>
    if picked.isEmpty then .ok .otherwise else .error (.gluedElse (String.ofList picked))
  | .endChoice => .ok .endChoice
  | .endLoop => .ok .endLoop
  | _ => .ok .comment

/-- The tag that was found, its argument read where it takes one, and the text after it. -/
def readMark (f : Found) : Except TagFault (Mark × List Char) :=
  if f.rule.takesArgument then
    match argument? f.rest with
    | some (argument, rest) => (markWith f.rule argument).map (·, rest)
    | none => .error (.endlessArgument f.rule.name)
  else (markAlone f.rule f.picked).map (·, f.rest)

theorem length_of_readMark {f : Found} {m : Mark} {rest : List Char}
    (h : readMark f = .ok (m, rest)) : rest.length ≤ f.rest.length := by
  have ok_of_map {e : Except TagFault Mark} {r : List Char} (h : e.map (·, r) = .ok (m, rest)) :
      r = rest := by
    cases e <;> simp_all [Except.map]
  unfold readMark at h
  split at h
  · split at h
    · next argument r hr =>
      have := length_of_argument? hr
      rw [← ok_of_map h]
      omega
    · simp at h
  · exact ok_of_map h ▸ Nat.le_refl _

def textPiece (s : List Char) : List Piece := if s.isEmpty then [] else [.text s]

def piecesFrom (template s : List Char) : List Piece :=
  match h : next? scanRules s with
  | none => textPiece s
  | some (gap, f) =>
    let line := lineAt template (s.drop gap.length)
    textPiece gap ++
      match hm : readMark f with
      | .error cause => [.bad cause line]
      | .ok (m, rest) =>
        have := length_of_next? h
        have := length_of_readMark hm
        .mark m line :: piecesFrom template rest
termination_by s.length

def pieces (template : List Char) : List Piece := piecesFrom template template

end Stencil.Template
