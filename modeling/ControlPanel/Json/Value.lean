import ControlPanel.Number.Binary64

/-!
A number without fraction and exponent that fits 64 bits stays a whole number; all others are
numbers of the binary64 format. The members of an object are a list, which is ascending and without
repeated keys when the object was read from a text.
-/

namespace ControlPanel

/-- A JSON value. -/
inductive Json where
  | null
  | bool (b : Bool)
  | whole (n : Int)
  | real (x : Binary64)
  | text (s : String)
  | array (items : List Json)
  | object (members : List (String × Json))

namespace Json

/-- Adds a member in ascending order of keys. A member with the same key is replaced. -/
def insertMember (key : String) (value : Json) : List (String × Json) → List (String × Json)
  | [] => [(key, value)]
  | (k, v) :: l =>
    if key < k then (key, value) :: (k, v) :: l
    else if key = k then (key, value) :: l
    else (k, v) :: insertMember key value l

/-- The object with the given members, of which the last of each key counts. -/
def ofMembers (members : List (String × Json)) : Json :=
  .object (members.foldl (fun l m => insertMember m.1 m.2 l) [])

/-- The value of the member with the key. -/
def member? (key : String) (members : List (String × Json)) : Option Json :=
  (members.find? fun m => m.1 == key).map Prod.snd

end Json

end ControlPanel
