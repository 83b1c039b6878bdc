import Stencil.Fault
import Stencil.Json.Basic
/-!
# Sinks

A sink gathers output until it is closed. Nothing can be written to a closed sink or read from it, and
closing it again changes nothing.
-/

namespace Stencil

/-- A place for output: open with what has been written, or closed. -/
inductive Sink where
  | opened (text : String)
  | closed
deriving Repr, DecidableEq

namespace Sink

def fresh : Sink := .opened ""

def text? : Sink → Option String
  | opened text => some text
  | closed => none

def isClosed (s : Sink) : Bool := s.text?.isNone

def text : Sink → Except Fault String
  | opened text => .ok text
  | closed => .error (.badValue .closedSink)

/-- A sink with one more text. Anything but a text is refused, by a closed sink too. -/
def write (s : Sink) : Json → Except Fault Sink
  | .str more => do
    let before ← s.text
    .ok (opened (before ++ more))
  | _ => .error .wrongType

def close (_ : Sink) : Sink := closed

def capture (texts : List String) : Except Fault String := do
  let sink ← texts.foldlM (fun sink text => sink.write (.str text)) fresh
  sink.text

end Sink

end Stencil
