/-!
Repeated slashes in a path, and single dots between its names, do not count.
-/

namespace ControlPanel.Path

/-- The path without what does not count at its end, both written backwards. -/
def trimBackwards : List Char → List Char
  | ['/'] => ['/']
  | ['.', '/'] => ['/']
  | '/' :: cs => trimBackwards cs
  | '.' :: '/' :: cs => trimBackwards cs
  | cs => cs

/-- The path of the directory that holds what the path names: `none` for the root and the empty
path, the empty path for a single name. -/
def parent? (path : String) : Option String :=
  match trimBackwards path.toList.reverse with
  | [] => none
  | ['/'] => none
  | cs => some (String.ofList (trimBackwards (cs.dropWhile (· != '/'))).reverse)

/-- Whether a path starts from the root. -/
def isRooted (path : String) : Bool :=
  path.toList.head? == some '/'

/-- A path taken from a directory. A path from the root stays as it is. -/
def join (directory path : String) : String :=
  if isRooted path then path
  else if directory.toList.getLast?.all (· == '/') then directory ++ path
  else directory ++ "/" ++ path

/-- The names in a text of characters, with those that are empty. -/
def splitNames : List Char → List (List Char)
  | [] => [[]]
  | c :: cs =>
    if c = '/' then [] :: splitNames cs
    else
      match splitNames cs with
      | [] => [[c]]
      | name :: names => (c :: name) :: names

/-- The names of a path in order, dots included. -/
def names (path : String) : List String :=
  ((splitNames path.toList).filter (· ≠ [])).map String.ofList

/-- The path of some names, from the root if `rooted`. -/
def ofNames (rooted : Bool) (names : List String) : String :=
  (if rooted then "/" else "") ++ "/".intercalate names

/-- Whether the path can only name a directory, since a slash ends it. -/
def endsInSlash (path : String) : Bool :=
  path.toList.getLast? == some '/'

/-- Whether a name has more bytes than a directory can hold. -/
def isNameTooLong (name : String) : Bool :=
  decide (255 < name.utf8ByteSize)

/-- Whether a path has more bytes than an operation takes. -/
def isTooLong (path : String) : Bool :=
  decide (4096 ≤ path.utf8ByteSize)

end ControlPanel.Path
