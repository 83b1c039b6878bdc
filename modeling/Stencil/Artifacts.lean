import Stencil.Digest
import Stencil.Files
import Stencil.Path
/-!
# Stores of artifacts

A folder with one artifact for each identity, in a file named for the digest of the identity. An artifact
is written to a temporary file first, which then takes its name, so that a write that fails leaves what
was there.
-/

namespace Stencil

structure Artifacts where
  folder : Path
deriving Repr, DecidableEq

inductive WriteStep where
  | create
  | fill
  | protect
  | replace
deriving Repr, DecidableEq

namespace Artifacts

def fileName (digest : String) : String := digest ++ ".json"

def path (a : Artifacts) (identity : String) : List String :=
  a.folder.parts ++ [fileName (Digest.ofText identity)]

def isCurrent (fs : Files) (path : List String) (text : String) : Bool :=
  match fs.read path with
  | .ok content => Digest.ofBytes content == Digest.ofText text
  | .error _ => false

def temporaryName (digest : String) (n : Nat) : String := "." ++ digest ++ "." ++ decimal n ++ ".tmp"

/-- The first name of a temporary file, from a number on, that is not in use. After as many names as are
in use there must be one. -/
def freeName (used : List String) (digest : String) : Nat → Nat → String
  | 0, n => temporaryName digest n
  | fuel + 1, n =>
    if used.contains (temporaryName digest n) then freeName used digest fuel (n + 1)
    else temporaryName digest n

def pass (trouble : WriteStep → Option Fault) (step : WriteStep) : Disk Unit :=
  match trouble step with
  | some fault => throw fault
  | none => return ()

def createTemporary (folder : List String) (digest : String) : Disk (List String) := do
  let fs ← get
  let used := fs.names folder
  let temporary := folder ++ [freeName used digest used.length 0]
  set (fs.put temporary (.file ByteArray.empty))
  return temporary

def rename (temporary target : List String) : Disk Unit := do
  let fs ← get
  if fs.isFolder target then throw .isDirectory
  else
    match fs.node? temporary with
    | some n => set ((fs.erase temporary).put target n)
    | none => throw (.notFound none)

/-- Writes the file for a digest in a folder. A step fails where `trouble` has a fault for it, and the
temporary file is removed whenever a step after the first fails. -/
def write (trouble : WriteStep → Option Fault) (folder : List String) (digest text : String) :
    Disk Unit := do
  pass trouble .create
  let temporary ← createTemporary folder digest
  try
    pass trouble .fill
    modify fun fs => fs.put temporary (.file text.toUTF8)
    pass trouble .protect
    pass trouble .replace
    rename temporary (folder ++ [fileName digest])
  catch fault =>
    modify fun fs => fs.erase temporary
    throw fault

def noTrouble (_ : WriteStep) : Option Fault := none

/-- Brings the artifact of an identity up to date, and says whether it had to be written. -/
def ensure (a : Artifacts) (trouble : WriteStep → Option Fault) (identity text : String) : Disk Bool := do
  if isCurrent (← get) (a.path identity) text then return false
  else
    let folder ← Disk.ask (·.enter [] a.folder.parts)
    write trouble folder (Digest.ofText identity) text
    return true

end Artifacts

end Stencil
