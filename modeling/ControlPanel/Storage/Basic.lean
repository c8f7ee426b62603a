import ControlPanel.Storage.Path

namespace ControlPanel

/-- Why the storage refused an operation. -/
inductive StorageError where
  | notFound
  | occupied
  | notDirectory
  | isDirectory
  | nameTooLong
  | nulInName
  | notText
  | other (message : String)
deriving DecidableEq, Repr

def StorageError.message : StorageError → String
  | notFound => "No such file or directory (os error 2)"
  | occupied => "File exists (os error 17)"
  | notDirectory => "Not a directory (os error 20)"
  | isDirectory => "Is a directory (os error 21)"
  | nameTooLong => "File name too long (os error 36)"
  | nulInName => "file name contained an unexpected NUL byte"
  | notText => "stream did not contain valid UTF-8"
  | other message => message

/-- What a file holds. -/
inductive Content where
  | text (s : String)
  | bytes (b : List UInt8)
deriving DecidableEq, Repr

/-- Something in a directory. -/
inductive Entry where
  | directory
  | file (content : Content)
deriving DecidableEq, Repr

/-- Directories and files by the names that lead to them from the root, which is a directory
itself. -/
structure Storage where
  entries : List (List String × Entry) := []
deriving DecidableEq, Repr

namespace Storage

/-- What stands at a place. -/
def entry? (s : Storage) (place : List String) : Option Entry :=
  if place = [] then some .directory else (s.entries.find? fun e => e.1 == place).map Prod.snd

def isDirectoryAt (s : Storage) (place : List String) : Bool :=
  s.entry? place == some .directory

/-- Puts an entry at a place, instead of the one there. -/
def insert (s : Storage) (place : List String) (e : Entry) : Storage :=
  if (s.entry? place).isSome then
    ⟨s.entries.map fun old => if old.1 = place then (place, e) else old⟩
  else ⟨s.entries ++ [(place, e)]⟩

/-- The place that names lead to from a place. Two dots lead up; the root is above itself. -/
def resolve (s : Storage) (place : List String) : List String → Except StorageError (List String)
  | [] => .ok place
  | name :: names =>
    if !s.isDirectoryAt place then .error .notDirectory
    else if name = "." then resolve s place names
    else if name = ".." then resolve s place.dropLast names
    else if Path.isNameTooLong name then .error .nameTooLong
    else
      let next := place ++ [name]
      if (s.entry? next).isSome then resolve s next names else .error .notFound

/-- The place of the directory that a path goes through last. -/
def resolveParent (s : Storage) (names : List String) : Except StorageError (List String) := do
  let place ← s.resolve [] names.dropLast
  if s.isDirectoryAt place then pure place else .error .notDirectory

/-- Refuses texts that no operation takes for a path. -/
def checkPath (path : String) : Except StorageError Unit :=
  if path.toList.contains '\x00' then .error .nulInName
  else if path = "" then .error .notFound
  else if Path.isTooLong path then .error .nameTooLong
  else .ok ()

/-- The place of what a path names. -/
def locate (s : Storage) (path : String) : Except StorageError (List String) := do
  checkPath path
  let place ← s.resolve [] (Path.names path)
  if Path.endsInSlash path && !s.isDirectoryAt place then .error .notDirectory else pure place

/-- Whether a path names something. -/
def contains (s : Storage) (path : String) : Bool :=
  match s.locate path with
  | .ok _ => true
  | .error _ => false

/-- The text of a file. -/
def readText (s : Storage) (path : String) : Except StorageError String := do
  let place ← s.locate path
  match s.entry? place with
  | some (.file (.text t)) => pure t
  | some (.file (.bytes _)) => .error .notText
  | some .directory => .error .isDirectory
  | none => .error .notFound

/-- Whether a name stands for a directory that is there already. -/
def isDots (name : String) : Bool :=
  name == "." || name == ".."

/-- Writes a file, in a directory that is there. -/
def writeFile (s : Storage) (path : String) (content : Content) : Except StorageError Storage := do
  checkPath path
  let names := Path.names path
  match names.getLast? with
  | none => .error .isDirectory
  | some name =>
    let place ← s.resolveParent names
    if isDots name || Path.endsInSlash path then .error .isDirectory
    else if Path.isNameTooLong name then .error .nameTooLong
    else if s.isDirectoryAt (place ++ [name]) then .error .isDirectory
    else pure (s.insert (place ++ [name]) (.file content))

/-- Makes a directory in one that is there. -/
def makeDirectory (s : Storage) (path : String) : Except StorageError Storage := do
  checkPath path
  let names := Path.names path
  match names.getLast? with
  | none => .error .occupied
  | some name =>
    let place ← s.resolveParent names
    if isDots name then .error .occupied
    else if Path.isNameTooLong name then .error .nameTooLong
    else if (s.entry? (place ++ [name])).isSome then .error .occupied
    else pure (s.insert (place ++ [name]) .directory)

end Storage

end ControlPanel
