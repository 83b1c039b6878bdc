import Stencil.Artifacts
import Stencil.Render.Run
import Stencil.Template.Compile
import Stencil.Template.Root
/-!
# Engines

An engine finds templates by name, keeps their artifacts up to date and renders them. A template is
always compiled anew, and its artifact is written only when it differs, so that what is rendered never
depends on what was stored before.
-/

namespace Stencil

/-- Where the templates and their artifacts are. -/
structure Engine where
  templates : TemplateRoot
  artifacts : Artifacts
deriving Repr, DecidableEq

/-- All that an engine works on: the files and a session. -/
structure World {σ ν : Type} (L : Language σ ν) where
  files : Files
  session : Session L

abbrev Work {σ ν : Type} (L : Language σ ν) := EStateM Fault (World L)

namespace Work

variable {σ ν α : Type} {L : Language σ ν}

def onFiles (x : Disk α) : Work L α := fun w =>
  match x w.files with
  | .ok a files => .ok a { w with files }
  | .error fault files => .error fault { w with files }

def inSession (x : Rendering L α) : Work L α := fun w =>
  match x w.session with
  | .ok a session => .ok a { w with session }
  | .error fault session => .error fault { w with session }

end Work

namespace Engine

variable {σ ν : Type} {L : Language σ ν}

/-- The name of the folder of artifacts, below the directory of templates unless another is given. -/
def standardFolder : String := "cached"

/-- An engine for a directory of templates, with a folder for its artifacts. -/
def make (directory : Path) (extension : String) (folder : Option Path) : Disk Engine := do
  let folder := folder.getD (directory.join (Path.ofText standardFolder))
  Disk.ensureFolders folder.parts
  return ⟨TemplateRoot.make directory extension, ⟨folder⟩⟩

/-- The text of the template of a name. -/
def source (e : Engine) (files : Files) (name : String) : Except Fault String := do
  let place ← e.templates.locate name
  files.readText place

/-- What the includes of a template are resolved with. -/
def resolver (e : Engine) (files : Files) : Template.Resolver := some (e.source files)

/-- The artifact that the template of a name has now, and the identity that it is stored for. -/
def artifact (e : Engine) (files : Files) (name : String) : Except Fault (String × String) := do
  let place ← e.templates.locate name
  let text ← files.readText place
  let compiled ← Template.compile (e.resolver files) text
  .ok ((Path.ofPlace place).text, compiled)

/-- Brings the artifact of a template up to date. Gives its path, and whether it had to be written. -/
def compile (e : Engine) (name : String) (trouble : WriteStep → Option Fault := Artifacts.noTrouble) :
    Disk (List String × Bool) := do
  let (identity, compiled) ← Disk.ask (e.artifact · name)
  let written ← e.artifacts.ensure trouble identity compiled
  return (e.artifacts.path identity, written)

/-- The output of an artifact. -/
def execute (files : Files) (path : List String) (scope : Scope ν) : Rendering L String := do
  let text ← MonadExcept.ofExcept (files.readText path)
  let body ← MonadExcept.ofExcept (Template.load text)
  Render.runAll scope body

/-- The output of the template of a name under values and further variables, which hide them. The
artifact is brought up to date and rendered. Says as well whether it had to be written. -/
def bake (e : Engine) (name : String) (values : Scope ν) (named : List (String × ν))
    (trouble : WriteStep → Option Fault := Artifacts.noTrouble) : Work L (String × Bool) := do
  let (path, written) ← Work.onFiles (e.compile name trouble)
  let output ← Work.inSession (execute (← get).files path (values.bindAll named))
  return (output, written)

/-- The output of a text under values and further variables, which hide them. No artifact is read or
written. -/
def renderText (e : Engine) (text : String) (values : Scope ν) (named : List (String × ν)) :
    Work L String := do
  let files := (← get).files
  let body ← MonadExcept.ofExcept (Template.parseText (e.resolver files) text)
  Work.inSession (Render.runAll (values.bindAll named) (Template.fields body))

/-- What a text stands for as a plain template: the text of a file if it is the path of one, and otherwise
itself. A relative path counts from the working directory. -/
def plainSource (files : Files) (text : String) (working : Path := Path.ofPlace []) : Except Fault String :=
  let p := working.join (Path.ofText text)
  if Path.endsInPart text.toList && files.hasFile p.parts then files.readText p.parts else .ok text

end Engine

end Stencil
