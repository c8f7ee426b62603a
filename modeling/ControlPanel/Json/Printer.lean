import ControlPanel.Json.Value
import ControlPanel.Number.Written

/-!
Values are laid out over several lines, two spaces deeper for each level; empty arrays and objects
stay on their line. A number that is not finite has no JSON text; `null` stands in its place.
-/

namespace ControlPanel.Json

/-- One character of a string. -/
def escape (c : Char) : List Char :=
  match c with
  | '"' => ['\\', '"']
  | '\\' => ['\\', '\\']
  | '\x08' => ['\\', 'b']
  | '\x0c' => ['\\', 'f']
  | '\n' => ['\\', 'n']
  | '\r' => ['\\', 'r']
  | '\t' => ['\\', 't']
  | c =>
    if c.toNat < 32 then
      ['\\', 'u', '0', '0', Nat.digitChar (c.toNat / 16), Nat.digitChar (c.toNat % 16)]
    else [c]

/-- A string between its quotes. -/
def textChars (s : String) : List Char :=
  '"' :: s.toList.flatMap escape ++ ['"']

/-- The decimal digits of a whole number, after a sign if it is negative. -/
def wholeChars : Int → List Char
  | .ofNat n => Nat.toDigits 10 n
  | .negSucc n => '-' :: Nat.toDigits 10 (n + 1)

/-- A line break and the indentation of a level. -/
def newLine (level : Nat) : List Char :=
  '\n' :: List.replicate (2 * level) ' '

mutual

/-- A value that stands at the given level. -/
def chars (level : Nat) : Json → List Char
  | null => ['n', 'u', 'l', 'l']
  | bool true => ['t', 'r', 'u', 'e']
  | bool false => ['f', 'a', 'l', 's', 'e']
  | whole n => wholeChars n
  | real x => if x.isFinite then x.savedChars else ['n', 'u', 'l', 'l']
  | text s => textChars s
  | array [] => ['[', ']']
  | array (v :: vs) =>
    '[' :: newLine (level + 1) ++
      (chars (level + 1) v ++ (itemChars (level + 1) vs ++ (newLine level ++ [']'])))
  | object [] => ['\x7b', '\x7d']
  | object (m :: ms) =>
    '\x7b' :: newLine (level + 1) ++
      (memberChars (level + 1) m ++ (restChars (level + 1) ms ++ (newLine level ++ ['\x7d'])))

/-- The items of an array after its first. -/
def itemChars (level : Nat) : List Json → List Char
  | [] => []
  | v :: vs => ',' :: newLine level ++ (chars level v ++ itemChars level vs)

/-- A key and its value. -/
def memberChars (level : Nat) : String × Json → List Char
  | (key, v) => textChars key ++ (':' :: ' ' :: chars level v)

/-- The members of an object after its first. -/
def restChars (level : Nat) : List (String × Json) → List Char
  | [] => []
  | m :: ms => ',' :: newLine level ++ (memberChars level m ++ restChars level ms)

end

/-- The text of a value. -/
def pretty (v : Json) : String :=
  String.ofList (chars 0 v)

end ControlPanel.Json
