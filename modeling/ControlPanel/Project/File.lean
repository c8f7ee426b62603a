import ControlPanel.Project.Load
import ControlPanel.Project.Save
import ControlPanel.Storage.Access

namespace ControlPanel

/-- What went wrong with a file. -/
inductive FileFault where
  | storage (error : StorageError)
  | project (error : ProjectError)

/-- What went wrong, and with which file or directory. -/
structure FileError where
  path : String
  fault : FileFault

/-- A message and the causes behind it, outermost first. -/
def ProjectError.chain (e : ProjectError) : List String :=
  e.message ::
    match e with
    | notJson error => [error.message]
    | malformed misfit => [misfit.message]
    | invalid error => [error.message]
    | _ => []

def FileFault.chain : FileFault → List String
  | storage error => [error.message]
  | project error => error.chain

def FileFault.message : FileFault → String
  | storage error => error.message
  | project error => error.message

def FileError.message (e : FileError) : String :=
  e.path ++ ": " ++ e.fault.message

/-- A message and the causes behind it, outermost first. -/
def FileError.chain (e : FileError) : List String :=
  e.message :: e.fault.chain

namespace ProjectFile

/-- The name of a project made at a time, in milliseconds. -/
def nameAt (millis : Int) : String :=
  "Rayfield_Project_" ++ toString millis ++ ".json"

/-- The usual name of a script. -/
def scriptName : String := "Rayfield_Script.lua"

variable {m : Type → Type} [Monad m] [FileAccess m]

/-- The document in a file. -/
def load (path : String) : m (Except FileError Document) := do
  match ← FileAccess.readText path with
  | .error e => pure (.error ⟨path, .storage e⟩)
  | .ok text =>
    match Document.load text with
    | .error e => pure (.error ⟨path, .project e⟩)
    | .ok d => pure (.ok d)

/-- Puts a text into a file, and makes the directories above it that are missing. -/
def writeText (path text : String) : m (Except FileError Unit) := do
  let write : m (Except FileError Unit) := do
    match ← FileAccess.writeText path text with
    | .error e => pure (.error ⟨path, .storage e⟩)
    | .ok () => pure (.ok ())
  match Path.parent? path with
  | none => write
  | some directory =>
    if directory = "" then write
    else
      match ← FileAccess.makeDirectories directory with
      | .error e => pure (.error ⟨directory, .storage e⟩)
      | .ok () => write

/-- Saves a document in a file. -/
def save (path : String) (d : Document) : m (Except FileError Unit) :=
  match d.save with
  | .error e => pure (.error ⟨path, .project e⟩)
  | .ok text => writeText path text

end ProjectFile

end ControlPanel
