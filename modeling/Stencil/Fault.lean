import Stencil.Text.Quoted
import Stencil.Number.Decimal
/-!
# Faults

Everything that can go wrong, by cause. `Fault.message` gives the wording of the causes that have one.
-/

namespace Stencil

inductive BlockKind where
  | choice
  | loop
deriving Repr, DecidableEq

def BlockKind.word : BlockKind → String
  | .choice => "if"
  | .loop => "foreach"

inductive ArmTag where
  | further
  | otherwise
deriving Repr, DecidableEq

def ArmTag.word : ArmTag → String
  | .further => "elseif"
  | .otherwise => "else"

inductive TagFault where
  | endlessInclude
  | noResolver (name : String)
  | endlessArgument (word : String)
  | emptyArgument (word : String)
  | gluedElse (tail : String)
  | loopShape (argument : String)
  | outsideChoice (tag : ArmTag)
  | afterElse (tag : ArmTag)
  | nothingToClose (kind : BlockKind)
  | wrongCloser (closer opened : BlockKind) (line : Nat)
  | neverClosed (kind : BlockKind) (line : Nat)
deriving Repr, DecidableEq

def decimal (n : Nat) : String := String.ofList (Number.digits n)

def TagFault.message : TagFault → String
  | .endlessInclude => "Unterminated @include("
  | .noResolver name => "Cannot include " ++ Text.quote name ++ ": no template loader configured"
  | .endlessArgument word => "Unterminated @" ++ word ++ "("
  | .emptyArgument word => "@" ++ word ++ " requires an expression"
  | .gluedElse tail =>
    "Unknown directive @else" ++ tail ++ "; separate @else from the text after it"
  | .loopShape argument =>
    "@foreach expects 'items as item' or 'items as key => item', got " ++ Text.quote argument
  | .outsideChoice tag => "@" ++ tag.word ++ " outside of an @if block"
  | .afterElse tag => "@" ++ tag.word ++ " after @else"
  | .nothingToClose kind => "@end" ++ kind.word ++ " without an open @" ++ kind.word
  | .wrongCloser closer opened line =>
    "@end" ++ closer.word ++ " cannot close @" ++ opened.word ++ " opened on line " ++ decimal line
  | .neverClosed kind line =>
    "@" ++ kind.word ++ " opened on line " ++ decimal line ++ " is never closed"

inductive Absence where
  | name (name : String)
  | member (owner name : String)
  | element (owner key : String)
  | blocked (owner name : String)
  | because (reason : String)
deriving Repr, DecidableEq

def Absence.message : Absence → String
  | .name n => Text.quote n ++ " is undefined"
  | .member owner n => Text.quote owner ++ " has no attribute " ++ Text.quote n
  | .element owner key => owner ++ " has no element " ++ key
  | .blocked owner n =>
    "access to attribute " ++ Text.quote n ++ " of " ++ Text.quote owner ++ " object is unsafe."
  | .because reason => reason

/-- The two tables of named operations on values. -/
inductive Table where
  | filters
  | tests
deriving Repr, DecidableEq

def Table.entry : Table → String
  | .filters => "filter"
  | .tests => "test"

/-- Values that an operation refuses with a wording. -/
inductive BadValue where
  | artifactVersion (shown : String)
  | instructionType (shown : String)
  | templateName (shown : String)
  | emptyName (path : String)
  | pathName (name : String)
  | nulInPath
  | closedSink
  | longIntegerText
  | longInteger (count : Nat)
  | other (message : String)
deriving Repr, DecidableEq

def BadValue.message : BadValue → String
  | .artifactVersion shown => "Unsupported artifact version: " ++ shown
  | .instructionType shown => "Unknown instruction type: " ++ shown
  | .templateName shown => "Invalid template name: " ++ shown
  | .emptyName path => "PosixPath(" ++ Text.quote path ++ ") has an empty name"
  | .pathName name => "Invalid name " ++ Text.quote name
  | .nulInPath => "embedded null byte"
  | .closedSink => "I/O operation on closed file"
  | .longIntegerText =>
    "Exceeds the limit (4300 digits) for integer string conversion; " ++
      "use sys.set_int_max_str_digits() to increase the limit"
  | .longInteger count =>
    "Exceeds the limit (4300 digits) for integer string conversion: value has " ++ decimal count ++
      " digits; use sys.set_int_max_str_digits() to increase the limit"
  | .other message => message

inductive Fault where
  | tag (cause : TagFault) (line : Nat)
  | badValue (cause : BadValue)
  | missingKey (shown : String)
  | raised (message : String)
  | resized
  | absent (why : Absence)
  | unknownEntry (table : Table) (name : String)
  | lateEntry (table : Table) (name : String)
  | filterArgument
  | malformedExpression
  | repeatedArgument
  | wrongType
  | noAttribute
  | outOfRange
  | divisionByZero
  | overflow
  | malformedJson
  | malformedUtf8
  | tooDeep
  | notFound (name : Option String)
  | isDirectory
  | notDirectory
  | alreadyExists
  | nameTooLong
  | writeFailed
deriving Repr, DecidableEq

def Fault.message : Fault → Option String
  | .tag cause line => some (cause.message ++ " (line " ++ decimal line ++ ")")
  | .badValue cause => some cause.message
  | .missingKey shown => some shown
  | .raised message => some message
  | .resized => some "dictionary changed size during iteration"
  | .absent why => some why.message
  | .unknownEntry table name => some ("No " ++ table.entry ++ " named " ++ Text.quote name ++ ".")
  | .notFound name => name
  | _ => none

/-- The calls within each other that there is room for when a template is written or read: a thousand, less
those of whoever asks for it. -/
def callRoom : Nat := 980

def nest : Nat → Except Fault Nat
  | 0 => .error .tooDeep
  | room + 1 => .ok room

end Stencil
