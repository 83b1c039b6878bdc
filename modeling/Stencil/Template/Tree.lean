import Stencil.Template.Instruction
import Stencil.Template.Piece
/-!
# Trees of pieces

The pieces of a template are put together from left to right, with a stack of the blocks that are open.
A tag that does not fit the innermost open block is a fault, and so is a block that stays open.
-/

namespace Stencil.Template

/-- The head of a block whose body is being read: an arm of a choice with the arms before it, the last
body of a choice, or a loop. -/
inductive Head where
  | arm (before : List (Arm String)) (cond : String)
  | last (arms : List (Arm String))
  | loop (iterable : String) (key : Option String) (value : String)

def Head.kind : Head → BlockKind
  | .arm .. | .last .. => .choice
  | .loop .. => .loop

def Head.close : Head → Body → Instruction String
  | .arm before cond, body => .choose (before ++ [.mk cond body]) none
  | .last arms, body => .choose arms (some body)
  | .loop iterable key value, body => .loop iterable key value body

/-- An open block: its head, the line of its opening tag, and the body around it, latest instruction
first. -/
structure Open where
  head : Head
  line : Nat
  around : Body

/-- What is read so far: the innermost body, latest instruction first, and the open blocks, innermost
first. -/
structure State where
  body : Body
  blocks : List Open

/-- A body, latest instruction first, with a text after it: texts that meet become one. -/
def addText (text : String) : Body → Body
  | .literal before :: rest => .literal (before ++ text) :: rest
  | body => .literal text :: body

def State.turn (s : State) (tag : ArmTag) (line : Nat)
    (next : List (Arm String) → Head) : Except Fault State :=
  match s.blocks with
  | ⟨.arm before cond, opened, around⟩ :: blocks =>
    .ok ⟨[], ⟨next (before ++ [.mk cond s.body.reverse]), opened, around⟩ :: blocks⟩
  | ⟨.last _, _, _⟩ :: _ => .error (.tag (.afterElse tag) line)
  | _ => .error (.tag (.outsideChoice tag) line)

def State.close (s : State) (kind : BlockKind) (line : Nat) : Except Fault State :=
  match s.blocks with
  | [] => .error (.tag (.nothingToClose kind) line)
  | ⟨head, opened, around⟩ :: blocks =>
    if head.kind = kind then .ok ⟨head.close s.body.reverse :: around, blocks⟩
    else .error (.tag (.wrongCloser kind head.kind opened) line)

/-- A tag that opens a block. -/
def State.enter (s : State) (head : Head) (line : Nat) : State :=
  ⟨[], ⟨head, line, s.body⟩ :: s.blocks⟩

def State.step (s : State) : Piece → Except Fault State
  | .text t => .ok ⟨addText (String.ofList t) s.body, s.blocks⟩
  | .bad cause line => .error (.tag cause line)
  | .mark m line =>
    match m with
    | .comment => .ok s
    | .echo expr => .ok ⟨.echo expr :: s.body, s.blocks⟩
    | .choice cond => .ok (s.enter (.arm [] cond) line)
    | .further cond => s.turn .further line fun before => .arm before cond
    | .otherwise => s.turn .otherwise line .last
    | .endChoice => s.close .choice line
    | .loop iterable key value => .ok (s.enter (.loop iterable key value) line)
    | .endLoop => s.close .loop line

def State.finish (s : State) : Except Fault Body :=
  match s.blocks with
  | [] => .ok s.body.reverse
  | block :: _ => .error (.tag (.neverClosed block.head.kind block.line) block.line)

def tree (ps : List Piece) : Except Fault Body := do
  let s ← ps.foldlM State.step ⟨[], []⟩
  s.finish

/-- The tree of a template without includes. -/
def parse (template : List Char) : Except Fault Body := tree (pieces template)

end Stencil.Template
