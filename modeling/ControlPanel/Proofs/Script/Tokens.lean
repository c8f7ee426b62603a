import Mathlib

/-!
The lexical rules of Lua 5.4, the language of finished scripts, as a machine that takes one
character at a time. Names, numerals and operators are as long as they can be; a string token holds
the bytes that it stands for. Everything that is none of these is a mark of one character.
-/

namespace ControlPanel.Script

/-- A token. Reserved words are names here. -/
inductive Token where
  | name (text : String)
  | mark (text : String)
  | numeral (text : String)
  | string (bytes : List UInt8)
deriving DecidableEq, Repr

/-- The UTF-8 bytes of characters. -/
def bytesOf (cs : List Char) : List UInt8 :=
  cs.flatMap String.utf8EncodeChar

/-- The string token of a text. -/
def Token.ofText (s : String) : Token :=
  .string (bytesOf s.toList)

namespace Lexer

def isNameStart (c : Char) : Bool :=
  c.isAlpha || c == '_'

def isNameChar (c : Char) : Bool :=
  c.isAlphanum || c == '_'

def isSpace (c : Char) : Bool :=
  [' ', '\t', '\n', '\r', '\x0b', '\x0c'].contains c

def isNewline (c : Char) : Bool :=
  c == '\n' || c == '\r'

def hexDigit? (c : Char) : Option Nat :=
  if c.isDigit then some (c.toNat - '0'.toNat)
  else if 'a' ≤ c ∧ c ≤ 'f' then some (c.toNat - 'a'.toNat + 10)
  else if 'A' ≤ c ∧ c ≤ 'F' then some (c.toNat - 'A'.toNat + 10)
  else none

/-- What follows the digits before and after a point, of which there must be one at least. -/
def afterMantissa? (isDigit : Char → Bool) (cs : List Char) : Option (List Char) :=
  match cs.dropWhile isDigit with
  | '.' :: ds =>
    if (cs.takeWhile isDigit ++ ds.takeWhile isDigit).isEmpty then none
    else some (ds.dropWhile isDigit)
  | rest => if (cs.takeWhile isDigit).isEmpty then none else some rest

/-- Whether the characters are nothing or an exponent after one of the marks. -/
def isExponent (marks : List Char) : List Char → Bool
  | [] => true
  | c :: cs =>
    let ds :=
      match cs with
      | '+' :: ds => ds
      | '-' :: ds => ds
      | ds => ds
    marks.contains c && !ds.isEmpty && ds.all Char.isDigit

def isDecimalNumeral (cs : List Char) : Bool :=
  match afterMantissa? Char.isDigit cs with
  | some rest => isExponent ['e', 'E'] rest
  | none => false

def isHexNumeral (cs : List Char) : Bool :=
  match afterMantissa? (fun c => (hexDigit? c).isSome) cs with
  | some rest => isExponent ['p', 'P'] rest
  | none => false

def isNumeral : List Char → Bool
  | '0' :: 'x' :: cs => isHexNumeral cs
  | '0' :: 'X' :: cs => isHexNumeral cs
  | cs => isDecimalNumeral cs

/-- Whether a sign after the characters is part of the numeral: it follows the mark of an
exponent. -/
def takesSign (cs : List Char) : Bool :=
  match cs with
  | '0' :: 'x' :: _ => [some 'p', some 'P'].contains cs.getLast?
  | '0' :: 'X' :: _ => [some 'p', some 'P'].contains cs.getLast?
  | _ => [some 'e', some 'E'].contains cs.getLast?

/-- Whether a numeral goes on with the character, well formed or not. -/
def continuesNumeral (cs : List Char) (c : Char) : Bool :=
  isNameChar c || c == '.' || ((c == '+' || c == '-') && takesSign cs)

/-- The bytes of a code point below two to the thirty-first, in the extended form of UTF-8. -/
def extendedBytes (n : Nat) : List UInt8 :=
  let tail (i : Nat) : UInt8 := .ofNat (0x80 + n / 64 ^ i % 64)
  if n < 0x80 then [.ofNat n]
  else if n < 0x800 then [.ofNat (0xC0 + n / 64), tail 0]
  else if n < 0x10000 then [.ofNat (0xE0 + n / 64 ^ 2), tail 1, tail 0]
  else if n < 0x200000 then [.ofNat (0xF0 + n / 64 ^ 3), tail 2, tail 1, tail 0]
  else if n < 0x4000000 then [.ofNat (0xF8 + n / 64 ^ 4), tail 3, tail 2, tail 1, tail 0]
  else [.ofNat (0xFC + n / 64 ^ 5), tail 4, tail 3, tail 2, tail 1, tail 0]

/-- Where in a string between quotes the machine is. -/
inductive TextPhase where
  | plain
  | escape
  | decimal (count value : Nat)
  | hex (first : Option Nat)
  | spaces
  | newline (first : Char)
  | codePoint
  | codeDigits (count value : Nat)
deriving DecidableEq

/-- Where in a string or comment between long brackets the machine is. -/
inductive LongPhase where
  | opened
  | plain
  | newline (first : Char)
  | closing (level : Nat)
deriving DecidableEq

/-- What the machine has read of the token that it is in. -/
inductive State where
  | start
  | name (cs : List Char)
  | numeral (cs : List Char)
  | dash
  | dot
  | dots
  | pair (first : Char)
  | bracket (level : Nat)
  | commentStart
  | commentBracket (level : Nat)
  | comment
  | long (isComment : Bool) (level : Nat) (phase : LongPhase) (bytes : List UInt8)
  | text (quote : Char) (phase : TextPhase) (bytes : List UInt8)
deriving DecidableEq

/-- A state and the tokens that were completed on the way to it. -/
abbrev Progress := State × List Token

def Progress.after (p : Progress) (ts : List Token) : Progress :=
  (p.1, ts ++ p.2)

/-- The characters that begin a mark of two characters, each with those that end it. -/
def pairs : Char → List Char
  | '=' => ['=']
  | '~' => ['=']
  | '<' => ['=', '<']
  | '>' => ['=', '>']
  | '/' => ['/']
  | ':' => [':']
  | _ => []

/-- The first character of a token, or white space. -/
def begin (c : Char) : Progress :=
  if isSpace c then (.start, [])
  else if isNameStart c then (.name [c], [])
  else if c.isDigit then (.numeral [c], [])
  else if c = '"' ∨ c = '\'' then (.text c .plain [], [])
  else if c = '-' then (.dash, [])
  else if c = '.' then (.dot, [])
  else if c = '[' then (.bracket 0, [])
  else if pairs c ≠ [] then (.pair c, [])
  else (.start, [.mark (String.singleton c)])

/-- A character of a comment that ends with its line. -/
def inComment (c : Char) : Progress :=
  if isNewline c then (.start, []) else (.comment, [])

/-- A character of a string that is no part of an escape. -/
def inText (quote : Char) (bytes : List UInt8) (c : Char) : Option Progress :=
  if c = quote then some (.start, [.string bytes])
  else if isNewline c then none
  else if c = '\\' then some (.text quote .escape bytes, [])
  else some (.text quote .plain (bytes ++ String.utf8EncodeChar c), [])

/-- The byte that a letter stands for after a backslash. -/
def letterByte? : Char → Option UInt8
  | 'a' => some 7
  | 'b' => some 8
  | 't' => some 9
  | 'n' => some 10
  | 'v' => some 11
  | 'f' => some 12
  | 'r' => some 13
  | '\\' => some 92
  | '"' => some 34
  | '\'' => some 39
  | _ => none

/-- The character after a backslash. -/
def inEscape (quote : Char) (bytes : List UInt8) (c : Char) : Option Progress :=
  match letterByte? c with
  | some b => some (.text quote .plain (bytes ++ [b]), [])
  | none =>
    if isNewline c then some (.text quote (.newline c) (bytes ++ [10]), [])
    else if c = 'x' then some (.text quote (.hex none) bytes, [])
    else if c = 'z' then some (.text quote .spaces bytes, [])
    else if c = 'u' then some (.text quote .codePoint bytes, [])
    else if c.isDigit then some (.text quote (.decimal 1 (c.toNat - '0'.toNat)) bytes, [])
    else none

/-- A character inside a string between quotes. -/
def stepText (quote : Char) (bytes : List UInt8) (c : Char) : TextPhase → Option Progress
  | .plain => inText quote bytes c
  | .escape => inEscape quote bytes c
  | .decimal count value =>
    if c.isDigit then
      let value := 10 * value + (c.toNat - '0'.toNat)
      if count < 2 then some (.text quote (.decimal (count + 1) value) bytes, [])
      else if value ≤ 255 then some (.text quote .plain (bytes ++ [.ofNat value]), [])
      else none
    else inText quote (bytes ++ [.ofNat value]) c
  | .hex none => (hexDigit? c).map fun v => (.text quote (.hex (some v)) bytes, [])
  | .hex (some first) =>
    (hexDigit? c).map fun v => (.text quote .plain (bytes ++ [.ofNat (16 * first + v)]), [])
  | .spaces => if isSpace c then some (.text quote .spaces bytes, []) else inText quote bytes c
  | .newline first =>
    if isNewline c ∧ c ≠ first then some (.text quote .plain bytes, [])
    else inText quote bytes c
  | .codePoint => if c = '\x7b' then some (.text quote (.codeDigits 0 0) bytes, []) else none
  | .codeDigits count value =>
    match hexDigit? c with
    | some v =>
      if 16 * value + v < 2 ^ 31 then
        some (.text quote (.codeDigits (count + 1) (16 * value + v)) bytes, [])
      else none
    | none =>
      if c = '\x7d' ∧ 0 < count then
        some (.text quote .plain (bytes ++ extendedBytes value), [])
      else none

/-- A character between long brackets that does not close them. A line break of any form is one
byte. -/
def inLong (isComment : Bool) (level : Nat) (bytes : List UInt8) (c : Char) : Progress :=
  if c = ']' then (.long isComment level (.closing 0) bytes, [])
  else if isNewline c then (.long isComment level (.newline c) (bytes ++ [10]), [])
  else (.long isComment level .plain (bytes ++ String.utf8EncodeChar c), [])

/-- The bytes of a bracket and equals signs that closed nothing. -/
def closingBytes (level : Nat) : List UInt8 :=
  93 :: List.replicate level 61

/-- A character inside a string or comment between long brackets. -/
def stepLong (isComment : Bool) (level : Nat) (bytes : List UInt8) (c : Char) :
    LongPhase → Progress
  | .opened =>
    if isNewline c then (.long isComment level (.newline c) bytes, [])
    else inLong isComment level bytes c
  | .plain => inLong isComment level bytes c
  | .newline first =>
    if isNewline c ∧ c ≠ first then (.long isComment level .plain bytes, [])
    else inLong isComment level bytes c
  | .closing count =>
    if c = '=' then (.long isComment level (.closing (count + 1)) bytes, [])
    else if c = ']' ∧ count = level then (.start, if isComment then [] else [.string bytes])
    else inLong isComment level (bytes ++ closingBytes count) c

/-- One step of the machine, unless the character makes an error. -/
def step : State → Char → Option Progress
  | .start, c => some (begin c)
  | .name cs, c =>
    if isNameChar c then some (.name (cs ++ [c]), [])
    else some ((begin c).after [.name (String.ofList cs)])
  | .numeral cs, c =>
    if continuesNumeral cs c then some (.numeral (cs ++ [c]), [])
    else if isNumeral cs then some ((begin c).after [.numeral (String.ofList cs)])
    else none
  | .dash, c => if c = '-' then some (.commentStart, []) else some ((begin c).after [.mark "-"])
  | .dot, c =>
    if c = '.' then some (.dots, [])
    else if c.isDigit then some (.numeral ['.', c], [])
    else some ((begin c).after [.mark "."])
  | .dots, c =>
    if c = '.' then some (.start, [.mark "..."]) else some ((begin c).after [.mark ".."])
  | .pair first, c =>
    if (pairs first).contains c then some (.start, [.mark (String.ofList [first, c])])
    else some ((begin c).after [.mark (String.singleton first)])
  | .bracket level, c =>
    if c = '=' then some (.bracket (level + 1), [])
    else if c = '[' then some (.long false level .opened [], [])
    else if level = 0 then some ((begin c).after [.mark "["])
    else none
  | .commentStart, c => if c = '[' then some (.commentBracket 0, []) else some (inComment c)
  | .commentBracket level, c =>
    if c = '=' then some (.commentBracket (level + 1), [])
    else if c = '[' then some (.long true level .opened [], [])
    else some (inComment c)
  | .comment, c => some (inComment c)
  | .long isComment level phase bytes, c => some (stepLong isComment level bytes c phase)
  | .text quote phase bytes, c => stepText quote bytes c phase

/-- The tokens that the end of the text completes, unless it is inside a token. -/
def finish : State → Option (List Token)
  | .start => some []
  | .name cs => some [.name (String.ofList cs)]
  | .numeral cs => if isNumeral cs then some [.numeral (String.ofList cs)] else none
  | .dash => some [.mark "-"]
  | .dot => some [.mark "."]
  | .dots => some [.mark ".."]
  | .pair first => some [.mark (String.singleton first)]
  | .bracket level => if level = 0 then some [.mark "["] else none
  | .commentStart => some []
  | .commentBracket _ => some []
  | .comment => some []
  | .long .. => none
  | .text .. => none

/-- The steps for the characters of a text, from a state on. -/
def run (st : State) : List Char → Option Progress
  | [] => some (st, [])
  | c :: cs => do
    let (st, ts) ← step st c
    let p ← run st cs
    pure (p.after ts)

end Lexer

/-- The tokens of a text, unless it breaks the lexical rules or ends inside a token. -/
def tokens? (s : String) : Option (List Token) := do
  let (st, ts) ← Lexer.run .start s.toList
  let us ← Lexer.finish st
  pure (ts ++ us)

end ControlPanel.Script
