namespace ControlPanel.Json

/-- Why a text is not JSON. -/
inductive Reason where
  | endInValue
  | endInArray
  | endInObject
  | endInText
  | valueExpected
  | wordExpected
  | keyExpected
  | colonExpected
  | arrayEndExpected
  | objectEndExpected
  | trailingComma
  | trailingCharacters
  | controlCharacter
  | invalidEscape
  | loneSurrogate
  | unpairedSurrogate
  | invalidNumber
  | numberOutOfRange
  | tooManyLevels
deriving DecidableEq, Repr

def Reason.message : Reason → String
  | endInValue => "EOF while parsing a value"
  | endInArray => "EOF while parsing a list"
  | endInObject => "EOF while parsing an object"
  | endInText => "EOF while parsing a string"
  | valueExpected => "expected value"
  | wordExpected => "expected ident"
  | keyExpected => "key must be a string"
  | colonExpected => "expected `:`"
  | arrayEndExpected => "expected `,` or `]`"
  | objectEndExpected => "expected `,` or `\x7d`"
  | trailingComma => "trailing comma"
  | trailingCharacters => "trailing characters"
  | controlCharacter => "control character (\\u0000-\\u001F) found while parsing a string"
  | invalidEscape => "invalid escape"
  | loneSurrogate => "lone leading surrogate in hex escape"
  | unpairedSurrogate => "unexpected end of hex escape"
  | invalidNumber => "invalid number"
  | numberOutOfRange => "number out of range"
  | tooManyLevels => "recursion limit exceeded"

/-- A reason, the text left unread, and the number of its bytes that were looked at. -/
structure Fault where
  reason : Reason
  rest : List Char
  ahead : Nat
deriving DecidableEq, Repr

/-- A reason with its line, counted from one, and its column. -/
structure SyntaxError where
  reason : Reason
  line : Nat
  column : Nat
deriving DecidableEq, Repr

def SyntaxError.message (e : SyntaxError) : String :=
  e.reason.message ++ " at line " ++ toString e.line ++ " column " ++ toString e.column

/-- The number of bytes of a text. -/
def byteCount (cs : List Char) : Nat :=
  cs.foldl (fun n c => n + c.utf8Size) 0

/-- The line and column reached after so many more bytes, from the given ones on. -/
def advance (line column : Nat) : Nat → List Char → Nat × Nat
  | 0, _ => (line, column)
  | _, [] => (line, column)
  | bytes + 1, c :: cs =>
    if c = '\n' then advance (line + 1) 0 bytes cs
    else if c.utf8Size ≤ bytes + 1 then
      advance line (column + c.utf8Size) (bytes + 1 - c.utf8Size) cs
    else (line, column + (bytes + 1))

/-- The error in the text `whole` that the fault stands for. -/
def Fault.locate (f : Fault) (whole : List Char) : SyntaxError :=
  let (line, column) := advance 1 0 (byteCount whole - byteCount f.rest + f.ahead) whole
  ⟨f.reason, line, column⟩

end ControlPanel.Json
