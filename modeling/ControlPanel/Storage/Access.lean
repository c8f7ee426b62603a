import ControlPanel.Storage.Basic

namespace ControlPanel

/-- Reading, writing and looking up files. -/
class FileAccess (m : Type → Type) where
  /-- The text of a file. -/
  readText : String → m (Except StorageError String)
  /-- Puts a text into a file, in a directory that is there. -/
  writeText : String → String → m (Except StorageError Unit)
  /-- Makes a directory, in one that is there. -/
  makeDirectory : String → m (Except StorageError Unit)
  /-- Whether a path names something. -/
  contains : String → m Bool

namespace FileAccess

variable {m : Type → Type} [Monad m] [FileAccess m]

def isDirectory (path : String) : m Bool := do
  match ← readText path with
  | .error .isDirectory => pure true
  | _ => pure false

/-- Makes a directory and those above it that are missing; the names are given backwards. A
directory that is there already is no error. -/
def makeDirectoriesUp (rooted : Bool) : List String → m (Except StorageError Unit)
  | [] => pure (.ok ())
  | name :: up => do
    let path := Path.ofNames rooted (name :: up).reverse
    match ← makeDirectory path with
    | .ok () => pure (.ok ())
    | .error .notFound =>
      match ← makeDirectoriesUp rooted up with
      | .error e => pure (.error e)
      | .ok () =>
        match ← makeDirectory path with
        | .ok () => pure (.ok ())
        | .error e => if ← isDirectory path then pure (.ok ()) else pure (.error e)
    | .error e => if ← isDirectory path then pure (.ok ()) else pure (.error e)

/-- Makes the directory that a path names and those above it that are missing. If it fails in the
end, some of those above may have been made. -/
def makeDirectories (path : String) : m (Except StorageError Unit) :=
  makeDirectoriesUp (Path.isRooted path) ((Path.names path).filter (· ≠ ".")).reverse

end FileAccess

/-- Runs a change of the storage that may be refused. -/
def Storage.attempt (f : Storage → Except StorageError Storage) :
    StateM Storage (Except StorageError Unit) :=
  fun s =>
    match f s with
    | .ok s => (.ok (), s)
    | .error e => (.error e, s)

instance : FileAccess (StateM Storage) where
  readText path := fun s => (s.readText path, s)
  writeText path text := Storage.attempt fun s => s.writeFile path (.text text)
  makeDirectory path := Storage.attempt fun s => s.makeDirectory path
  contains path := fun s => (s.contains path, s)

end ControlPanel
