import Stencil.Fault
import Stencil.Text.Line
/-!
# Files

A tree of folders and files, kept as the places that exist. A place is the list of names from the root,
which is a folder that always exists. Every other place stands in a folder.
-/

namespace Stencil

inductive Node where
  | folder
  | file (content : ByteArray)

structure Files where
  entries : List (List String × Node)

namespace Files

def empty : Files := ⟨[]⟩

def node? (fs : Files) (place : List String) : Option Node :=
  if place.isEmpty then some .folder else fs.entries.lookup place

def isFolder (fs : Files) (place : List String) : Bool :=
  match fs.node? place with
  | some .folder => true
  | _ => false

def without (place : List String) (entries : List (List String × Node)) : List (List String × Node) :=
  entries.filter (·.1 != place)

def put (fs : Files) (place : List String) (n : Node) : Files := ⟨(place, n) :: without place fs.entries⟩

def erase (fs : Files) (place : List String) : Files := ⟨without place fs.entries⟩

def names (fs : Files) (folder : List String) : List String :=
  fs.entries.filterMap fun (place, _) =>
    match place.getLast? with
    | some name => if place.dropLast = folder then some name else none
    | none => none

def longestName : Nat := 255

def next (folder : List String) (part : String) : Except Fault (List String) :=
  if part = ".." then .ok folder.dropLast
  else if part.contains '\x00' then .error (.badValue .nulInPath)
  else if part.utf8ByteSize > longestName then .error .nameTooLong
  else .ok (folder ++ [part])

/-- The folder that parts lead to from a folder, each of which must be a folder. -/
def enter (fs : Files) (folder : List String) : List String → Except Fault (List String)
  | [] => .ok folder
  | part :: rest => do
    let place ← next folder part
    match fs.node? place with
    | some .folder => enter fs place rest
    | some (.file _) => .error .notDirectory
    | none => .error (.notFound none)

/-- The place that a path leads to. Only the folders on the way have to be there. -/
def find (fs : Files) (parts : List String) : Except Fault (List String) :=
  match parts.getLast? with
  | none => .ok []
  | some part => do
    let folder ← fs.enter [] parts.dropLast
    next folder part

/-- The content of the file that a path leads to. -/
def read (fs : Files) (parts : List String) : Except Fault ByteArray := do
  let place ← fs.find parts
  match fs.node? place with
  | some (.file content) => .ok content
  | some .folder => .error .isDirectory
  | none => .error (.notFound none)

def readText (fs : Files) (parts : List String) : Except Fault String := do
  let content ← fs.read parts
  match String.fromUTF8? content with
  | some text => .ok (String.ofList (Text.unifyLines text.toList))
  | none => .error .malformedUtf8

def hasFile (fs : Files) (parts : List String) : Bool := (fs.read parts).toOption.isSome

end Files

abbrev Disk := EStateM Fault Files

namespace Disk

def ask {α : Type} (question : Files → Except Fault α) : Disk α := do
  MonadExcept.ofExcept (question (← get))

/-- Writes a file, which takes the place of one that is there. -/
def write (parts : List String) (content : ByteArray) : Disk Unit := do
  let place ← ask (·.find parts)
  if (← get).isFolder place then throw .isDirectory
  else modify fun fs => fs.put place (.file content)

def remove (parts : List String) : Disk Unit := do
  let place ← ask (·.find parts)
  match (← get).node? place with
  | some (.file _) => modify fun fs => fs.erase place
  | some .folder => throw .isDirectory
  | none => throw (.notFound none)

def makeFolder (parts : List String) : Disk Unit := do
  let place ← ask (·.find parts)
  match (← get).node? place with
  | some _ => throw .alreadyExists
  | none => modify fun fs => fs.put place .folder

def ensureFolder (parts : List String) : Disk Unit := do
  try makeFolder parts
  catch fault => do
    match (← get).find parts with
    | .ok place => if (← get).isFolder place then return () else throw fault
    | .error _ => throw fault

def ensureFolders (parts : List String) : Disk Unit := do
  try ensureFolder parts
  catch fault => do
    match fault, _h : parts with
    | .notFound _, _ :: _ => do
      ensureFolders parts.dropLast
      ensureFolder parts
    | fault, _ => throw fault
termination_by parts.length
decreasing_by simp [_h]

end Disk

end Stencil
