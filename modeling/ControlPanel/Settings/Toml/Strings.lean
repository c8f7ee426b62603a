import ControlPanel.Json.Reader

namespace ControlPanel.Toml

/-- A string and the text left after it. -/
abbrev StringReading := Option (String × List Char)

/-- Whether a character may stand in a comment or, by itself, in a string of one line. -/
def isLineCharacter (c : Char) : Bool :=
  c == '\t' || (decide (32 ≤ c.toNat) && c.toNat != 127)

/-- Reads a line break: a line feed, or a carriage return and a line feed. -/
def newline? : List Char → Option (List Char)
  | '\n' :: cs => some cs
  | '\r' :: '\n' :: cs => some cs
  | _ => none

def isBlank (c : Char) : Bool :=
  c == ' ' || c == '\t'

def skipBlanks (cs : List Char) : List Char :=
  cs.dropWhile isBlank

/-- Skips spaces, tabs and line breaks. -/
def skipLines : List Char → List Char
  | [] => []
  | '\r' :: '\n' :: cs => skipLines cs
  | c :: cs => if isBlank c || c == '\n' then skipLines cs else c :: cs

/-- The character with the code point that so many hexadecimal digits write, and the text after
them. -/
def codePoint? (digits : Nat) (cs : List Char) : Option (Char × List Char) := do
  let ds := cs.take digits
  if ds.length < digits then none
  else do
    let values ← ds.mapM Json.hexDigit?
    let n := values.foldl (fun n d => 16 * n + d) 0
    if n < 0xD800 ∨ (0xE000 ≤ n ∧ n < 0x110000) then some (Char.ofNat n, cs.drop digits)
    else none

/-- Reads an escape after its backslash. -/
def escape? : List Char → Option (Char × List Char)
  | '"' :: cs => some ('"', cs)
  | '\\' :: cs => some ('\\', cs)
  | 'b' :: cs => some ('\x08', cs)
  | 't' :: cs => some ('\t', cs)
  | 'n' :: cs => some ('\n', cs)
  | 'f' :: cs => some ('\x0c', cs)
  | 'r' :: cs => some ('\r', cs)
  | 'e' :: cs => some ('\x1b', cs)
  | 'x' :: cs => codePoint? 2 cs
  | 'u' :: cs => codePoint? 4 cs
  | 'U' :: cs => codePoint? 8 cs
  | _ => none

/-- Reads a string of one line after its double quote. Each step takes a character, so `fuel` may
be the length of the text; `acc` holds the characters before, last first. -/
def basicRest : Nat → List Char → List Char → StringReading
  | 0, _, _ => none
  | _, _, [] => none
  | fuel + 1, acc, c :: cs =>
    if c = '"' then some (String.ofList acc.reverse, cs)
    else if c = '\\' then do
      let (x, cs) ← escape? cs
      basicRest fuel (x :: acc) cs
    else if isLineCharacter c then basicRest fuel (c :: acc) cs
    else none

/-- Reads a string of one line after its single quote. -/
def literalRest (acc : List Char) : List Char → StringReading
  | [] => none
  | c :: cs =>
    if c = '\'' then some (String.ofList acc.reverse, cs)
    else if isLineCharacter c then literalRest (c :: acc) cs
    else none

/-- Whether a character, with the text after it, may stand by itself in a string of several lines.
A carriage return must belong to a line break. -/
def isLongCharacter (c : Char) (cs : List Char) : Bool :=
  isLineCharacter c || c == '\n' || (c == '\r' && cs.head? == some '\n')

/-- Reads the quotes at the end of a string of several lines, of which the last three close it. -/
def closing? (quote : Char) (acc cs : List Char) : StringReading :=
  let quotes := (cs.takeWhile (· == quote)).length
  if 3 ≤ quotes ∧ quotes ≤ 5 then
    some (String.ofList (acc.reverse ++ List.replicate (quotes - 3) quote), cs.drop quotes)
  else none

/-- Whether a backslash before the text ends its line, so that all blanks and line breaks are
skipped. -/
def continuesLine (cs : List Char) : Bool :=
  (newline? (skipBlanks cs)).isSome

/-- Reads a string of several lines after its three double quotes. -/
def longBasicRest : Nat → List Char → List Char → StringReading
  | 0, _, _ => none
  | _, _, [] => none
  | fuel + 1, acc, c :: cs =>
    if c = '"' then
      match cs with
      | '"' :: '"' :: _ => closing? '"' acc (c :: cs)
      | _ => longBasicRest fuel (c :: acc) cs
    else if c = '\\' then
      if continuesLine cs then longBasicRest fuel acc (skipLines cs)
      else do
        let (x, cs) ← escape? cs
        longBasicRest fuel (x :: acc) cs
    else if isLongCharacter c cs then longBasicRest fuel (c :: acc) cs
    else none

/-- Reads a string of several lines after its three single quotes. -/
def longLiteralRest (acc : List Char) : List Char → StringReading
  | [] => none
  | c :: cs =>
    if c = '\'' then
      match cs with
      | '\'' :: '\'' :: _ => closing? '\'' acc (c :: cs)
      | _ => longLiteralRest (c :: acc) cs
    else if isLongCharacter c cs then longLiteralRest (c :: acc) cs
    else none

/-- The text without the line break at its start. -/
def dropNewline (cs : List Char) : List Char :=
  (newline? cs).getD cs

/-- Reads a string that starts here. -/
def string? : List Char → StringReading
  | '"' :: '"' :: '"' :: cs => longBasicRest (cs.length + 1) [] (dropNewline cs)
  | '\'' :: '\'' :: '\'' :: cs => longLiteralRest [] (dropNewline cs)
  | '"' :: cs => basicRest (cs.length + 1) [] cs
  | '\'' :: cs => literalRest [] cs
  | _ => none

/-- Reads a string of one line that starts here, as a key may be. -/
def lineString? : List Char → StringReading
  | '"' :: cs => basicRest (cs.length + 1) [] cs
  | '\'' :: cs => literalRest [] cs
  | _ => none

end ControlPanel.Toml
