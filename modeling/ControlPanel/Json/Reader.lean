import ControlPanel.Json.Fault
import ControlPanel.Json.Value
import ControlPanel.Number.Nearest

namespace ControlPanel.Json

/-- A value and the text left after it. -/
abbrev Reading := Except Fault (Json × List Char)

def isSpace (c : Char) : Bool :=
  c == ' ' || c == '\t' || c == '\n' || c == '\r'

/-- The text from its first character on that is no white space. -/
def skip (cs : List Char) : List Char :=
  cs.dropWhile isSpace

/-- Reads the rest of a word and gives its value. -/
def word (v : Json) : List Char → List Char → Reading
  | [], cs => .ok (v, cs)
  | _ :: _, [] => .error ⟨.endInValue, [], 0⟩
  | w :: ws, c :: cs => if c = w then word v ws cs else .error ⟨.wordExpected, c :: cs, 1⟩

/-- The value of a hexadecimal digit. -/
def hexDigit? (c : Char) : Option Nat :=
  if '0' ≤ c ∧ c ≤ '9' then some (c.toNat - '0'.toNat)
  else if 'a' ≤ c ∧ c ≤ 'f' then some (c.toNat - 'a'.toNat + 10)
  else if 'A' ≤ c ∧ c ≤ 'F' then some (c.toNat - 'A'.toNat + 10)
  else none

/-- The value of four hexadecimal digits. -/
def hexUnit? (a b c d : Char) : Option Nat := do
  let a ← hexDigit? a
  let b ← hexDigit? b
  let c ← hexDigit? c
  let d ← hexDigit? d
  pure (a * 4096 + b * 256 + c * 16 + d)

/-- What is wrong where four hexadecimal digits should stand. -/
def hexFault (cs : List Char) : Fault :=
  if byteCount cs < 4 then ⟨.endInText, [], 0⟩ else ⟨.invalidEscape, cs, 4⟩

/-- The character that a letter after a backslash stands for. -/
def letter? : Char → Option Char
  | '"' => some '"'
  | '\\' => some '\\'
  | '/' => some '/'
  | 'b' => some '\x08'
  | 'f' => some '\x0c'
  | 'n' => some '\n'
  | 'r' => some '\r'
  | 't' => some '\t'
  | _ => none

/-- The character that a leading and a trailing surrogate stand for. -/
def pairChar (lead trail : Nat) : Char :=
  Char.ofNat (0x10000 + (lead - 0xD800) * 1024 + (trail - 0xDC00))

/-- Reads a string after its opening quote; `acc` holds the characters before, last first. -/
def stringRest (acc : List Char) : List Char → Except Fault (String × List Char)
  | [] => .error ⟨.endInText, [], 0⟩
  | c :: cs =>
    if c = '"' then .ok (String.ofList acc.reverse, cs)
    else if c = '\\' then
      match cs with
      | [] => .error ⟨.endInText, [], 0⟩
      | 'u' :: us =>
        match us with
        | h₁ :: h₂ :: h₃ :: h₄ :: vs =>
          match hexUnit? h₁ h₂ h₃ h₄ with
          | none => .error (hexFault us)
          | some unit =>
            if unit < 0xD800 ∨ 0xE000 ≤ unit then stringRest (Char.ofNat unit :: acc) vs
            else if 0xDC00 ≤ unit then .error ⟨.loneSurrogate, vs, 0⟩
            else
              match vs with
              | [] => .error ⟨.endInText, [], 0⟩
              | '\\' :: ws =>
                match ws with
                | [] => .error ⟨.endInText, [], 0⟩
                | 'u' :: xs =>
                  match xs with
                  | l₁ :: l₂ :: l₃ :: l₄ :: ys =>
                    match hexUnit? l₁ l₂ l₃ l₄ with
                    | none => .error (hexFault xs)
                    | some low =>
                      if 0xDC00 ≤ low ∧ low < 0xE000 then
                        stringRest (pairChar unit low :: acc) ys
                      else .error ⟨.loneSurrogate, ys, 0⟩
                  | _ => .error (hexFault xs)
                | _ => .error ⟨.unpairedSurrogate, ws, 1⟩
              | _ => .error ⟨.unpairedSurrogate, vs, 1⟩
        | _ => .error (hexFault us)
      | e :: es =>
        match letter? e with
        | some x => stringRest (x :: acc) es
        | none => .error ⟨.invalidEscape, e :: es, 1⟩
    else if c.toNat < 32 then .error ⟨.controlCharacter, c :: cs, 1⟩
    else stringRest (c :: acc) cs

/-- The number that decimal digits write. -/
def digitsValue (ds : List Char) : Nat :=
  ds.foldl (fun n c => 10 * n + (c.toNat - '0'.toNat)) 0

/-- A number of the binary64 format, which must be finite; `rest` is the text after it. -/
def realOf (x : Binary64) (rest : List Char) : Reading :=
  if x.isFinite then .ok (.real x, rest) else .error ⟨.numberOutOfRange, rest, 0⟩

/-- A number without fraction and exponent. -/
def wholeOf (negative : Bool) (n : Nat) (rest : List Char) : Reading :=
  if negative then
    if 0 < n ∧ n ≤ Nat.pow 2 63 then .ok (.whole (-n), rest)
    else realOf (.ofDecimal true n 0) rest
  else if n < Nat.pow 2 64 then .ok (.whole n, rest)
  else realOf (.ofDecimal false n 0) rest

/-- The largest exponent that is counted. -/
def maxExponent : Nat := 2147483647

/-- The value of the digits at the start, after `n`; the error is the text after the digit with
which it gets too large. -/
def exponentValue (n : Nat) : List Char → Except (List Char) Nat
  | [] => .ok n
  | c :: cs =>
    if c.isDigit then
      let n := 10 * n + (c.toNat - '0'.toNat)
      if maxExponent < n then .error cs else exponentValue n cs
    else .ok n

/-- Reads the digits of an exponent, after the digits before it and the number of those after the
point. An exponent too large to count makes zero or an infinity. -/
def exponentDigits (negative : Bool) (digits places : Nat) (below : Bool) : List Char → Reading
  | [] => .error ⟨.endInValue, [], 0⟩
  | c :: cs =>
    if c.isDigit then
      let rest := (c :: cs).dropWhile Char.isDigit
      match exponentValue 0 (c :: cs) with
      | .ok e =>
        realOf (.ofDecimal negative digits ((if below then -(e : Int) else e) - places)) rest
      | .error after =>
        if below ∨ digits = 0 then .ok (.real (.ofDecimal negative 0 0), rest)
        else .error ⟨.numberOutOfRange, after, 0⟩
    else .error ⟨.invalidNumber, c :: cs, 1⟩

/-- Reads an exponent after its letter. -/
def exponentRest (negative : Bool) (digits places : Nat) : List Char → Reading
  | '+' :: cs => exponentDigits negative digits places false cs
  | '-' :: cs => exponentDigits negative digits places true cs
  | cs => exponentDigits negative digits places false cs

/-- Reads what follows the digits after a point. -/
def fractionEnd (negative : Bool) (digits places : Nat) : List Char → Reading
  | 'e' :: cs => exponentRest negative digits places cs
  | 'E' :: cs => exponentRest negative digits places cs
  | cs => realOf (.ofDecimal negative digits (-(places : Int))) cs

/-- Reads a fraction after its point. -/
def fractionRest (negative : Bool) (whole : List Char) (cs : List Char) : Reading :=
  let part := cs.takeWhile Char.isDigit
  let rest := cs.dropWhile Char.isDigit
  match part, rest with
  | [], [] => .error ⟨.endInValue, [], 0⟩
  | [], c :: r => .error ⟨.invalidNumber, c :: r, 1⟩
  | _ :: _, rest => fractionEnd negative (digitsValue (whole ++ part)) part.length rest

/-- Reads what follows the digits before a point. -/
def wholeEnd (negative : Bool) (whole : List Char) : List Char → Reading
  | '.' :: cs => fractionRest negative whole cs
  | 'e' :: cs => exponentRest negative (digitsValue whole) 0 cs
  | 'E' :: cs => exponentRest negative (digitsValue whole) 0 cs
  | cs => wholeOf negative (digitsValue whole) cs

/-- Reads a number after its sign. -/
def unsigned (negative : Bool) : List Char → Reading
  | [] => .error ⟨.endInValue, [], 0⟩
  | c :: cs =>
    if c = '0' then
      match cs with
      | d :: r =>
        if d.isDigit then .error ⟨.invalidNumber, d :: r, 1⟩ else wholeEnd negative [c] cs
      | [] => wholeEnd negative [c] []
    else if c.isDigit then
      wholeEnd negative (c :: cs.takeWhile Char.isDigit) (cs.dropWhile Char.isDigit)
    else .error ⟨.invalidNumber, c :: cs, 1⟩

/-- Reads a value that is neither an array nor an object. -/
def scalar : List Char → Reading
  | [] => .error ⟨.endInValue, [], 1⟩
  | c :: cs =>
    if c = '"' then do
      let (s, rest) ← stringRest [] cs
      pure (.text s, rest)
    else if c = 'n' then word .null ['u', 'l', 'l'] cs
    else if c = 't' then word (.bool true) ['r', 'u', 'e'] cs
    else if c = 'f' then word (.bool false) ['a', 'l', 's', 'e'] cs
    else if c = '-' then unsigned true cs
    else if c.isDigit then unsigned false (c :: cs)
    else .error ⟨.valueExpected, c :: cs, 1⟩

/-- Reads items of an array up to its end; `acc` holds those before, last first. Each item takes
at least one character, so `fuel` may be the length of the text. -/
def itemsRest (item : List Char → Reading) : Nat → List Json → List Char → Reading
  | 0, _, cs => .error ⟨.endInArray, cs, 1⟩
  | fuel + 1, acc, cs => do
    let (v, rest) ← item cs
    match skip rest with
    | [] => .error ⟨.endInArray, [], 1⟩
    | c :: r =>
      if c = ']' then .ok (.array (v :: acc).reverse, r)
      else if c = ',' then
        match skip r with
        | [] => .error ⟨.endInValue, [], 1⟩
        | d :: r =>
          if d = ']' then .error ⟨.trailingComma, d :: r, 1⟩
          else itemsRest item fuel (v :: acc) (d :: r)
      else .error ⟨.arrayEndExpected, c :: r, 1⟩

/-- Reads an array after its bracket. -/
def arrayRest (item : List Char → Reading) (cs : List Char) : Reading :=
  match skip cs with
  | [] => .error ⟨.endInArray, [], 1⟩
  | c :: r => if c = ']' then .ok (.array [], r) else itemsRest item (r.length + 1) [] (c :: r)

/-- Reads members of an object up to its end; `acc` holds those before, last first. -/
def membersRest (item : List Char → Reading) :
    Nat → List (String × Json) → List Char → Reading
  | 0, _, cs => .error ⟨.endInObject, cs, 1⟩
  | _, _, [] => .error ⟨.endInObject, [], 1⟩
  | fuel + 1, acc, q :: cs =>
    if q = '"' then do
      let (key, rest) ← stringRest [] cs
      match skip rest with
      | [] => .error ⟨.endInObject, [], 1⟩
      | c :: r =>
        if c = ':' then do
          let (v, rest) ← item (skip r)
          match skip rest with
          | [] => .error ⟨.endInObject, [], 1⟩
          | c :: r =>
            if c = '\x7d' then .ok (ofMembers ((key, v) :: acc).reverse, r)
            else if c = ',' then
              match skip r with
              | [] => .error ⟨.endInValue, [], 1⟩
              | d :: r =>
                if d = '\x7d' then .error ⟨.trailingComma, d :: r, 1⟩
                else membersRest item fuel ((key, v) :: acc) (d :: r)
            else .error ⟨.objectEndExpected, c :: r, 1⟩
        else .error ⟨.colonExpected, c :: r, 1⟩
    else .error ⟨.keyExpected, q :: cs, 1⟩

/-- Reads an object after its brace. -/
def objectRest (item : List Char → Reading) (cs : List Char) : Reading :=
  match skip cs with
  | [] => .error ⟨.endInObject, [], 1⟩
  | c :: r =>
    if c = '\x7d' then .ok (.object [], r) else membersRest item (r.length + 1) [] (c :: r)

/-- Reads a value that opens at most so many arrays and objects inside each other. -/
def value : Nat → List Char → Reading
  | _, [] => scalar []
  | 0, c :: cs =>
    if c = '[' ∨ c = '\x7b' then .error ⟨.tooManyLevels, c :: cs, 1⟩ else scalar (c :: cs)
  | levels + 1, c :: cs =>
    if c = '[' then arrayRest (value levels) cs
    else if c = '\x7b' then objectRest (value levels) cs
    else scalar (c :: cs)

/-- The most arrays and objects that may be open at once. -/
def maxLevels : Nat := 127

/-- Reads a text that holds one value and white space around it. -/
def readAll (cs : List Char) : Except Fault Json := do
  let (v, rest) ← value maxLevels (skip cs)
  match skip rest with
  | [] => .ok v
  | c :: r => .error ⟨.trailingCharacters, c :: r, 1⟩

/-- The value of a JSON text. -/
def parse (s : String) : Except SyntaxError Json :=
  match readAll s.toList with
  | .ok v => .ok v
  | .error f => .error (f.locate s.toList)

end ControlPanel.Json
