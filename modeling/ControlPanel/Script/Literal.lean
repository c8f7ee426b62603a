import ControlPanel.Number.Written

namespace ControlPanel.Literal

/-- The three decimal digits of a number below a thousand. -/
def threeDigits (n : Nat) : List Char :=
  [Nat.digitChar (n / 100), Nat.digitChar (n / 10 % 10), Nat.digitChar (n % 10)]

/-- A control character of ASCII. -/
def isControl (c : Char) : Bool :=
  decide (c.toNat < 32) || c.toNat == 127

/-- One character of a literal. A control character has three digits, so that a digit after it is
never read as part of the escape. -/
def escape (c : Char) : List Char :=
  match c with
  | '\\' => ['\\', '\\']
  | '"' => ['\\', '"']
  | '\n' => ['\\', 'n']
  | '\r' => ['\\', 'r']
  | '\t' => ['\\', 't']
  | c => if isControl c then '\\' :: threeDigits c.toNat else [c]

/-- A text as one double-quoted literal. -/
def text (s : String) : String :=
  String.ofList ('"' :: s.toList.flatMap escape ++ ['"'])

/-- Appends the literal of `s`, character by character. -/
def pushText (out s : String) : String :=
  (s.toList.foldl (fun out c => out ++ String.ofList (escape c)) (out.push '"')).push '"'

/-- A number that is not finite has no literal. -/
structure NotFinite where
  value : Binary64
deriving DecidableEq, Repr

def NotFinite.message (e : NotFinite) : String :=
  "number is not finite: " ++ e.value.shown

def number (x : Binary64) : Except NotFinite String :=
  if x.isFinite then .ok (String.ofList x.scriptChars) else .error ⟨x⟩

def truth (b : Bool) : String :=
  if b then "true" else "false"

/-- The texts of a list, separated by commas. -/
def textItems : List String → String
  | [] => ""
  | [s] => text s
  | s :: t :: l => text s ++ ", " ++ textItems (t :: l)

/-- A table of texts in their order. -/
def texts (l : List String) : String :=
  "\x7b" ++ textItems l ++ "\x7d"

end ControlPanel.Literal
