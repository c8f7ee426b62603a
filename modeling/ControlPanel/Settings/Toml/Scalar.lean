import ControlPanel.Json.Reader

/-!
Settings are texts, so of other values it only matters whether they are well formed, and whether a
number is too large to be held.
-/

namespace ControlPanel.Toml

/-- Digits with single underscores between them. -/
def digitGroups (isDigit : Char → Bool) : List Char → Bool
  | [] => false
  | [c] => isDigit c
  | c :: '_' :: cs => isDigit c && digitGroups isDigit cs
  | c :: cs => isDigit c && digitGroups isDigit cs

/-- The digits of a number without the underscores between them. -/
def plainDigits (cs : List Char) : List Char :=
  cs.filter (· != '_')

/-- The number that digits write in a base. -/
def numberIn (base : Nat) (cs : List Char) : Nat :=
  (plainDigits cs).foldl (fun n c => base * n + (Json.hexDigit? c).getD 0) 0

/-- Whether a text starts with a minus sign. -/
def isNegative (cs : List Char) : Bool :=
  cs.head? == some '-'

/-- Whether an integer fits into 128 bits, with its sign if it has a minus. -/
def fits (negative : Bool) (n : Nat) : Bool :=
  if negative then decide (n ≤ Nat.pow 2 127) else decide (n < Nat.pow 2 128)

/-- The text without a sign at its start. -/
def unsignedPart : List Char → List Char
  | '+' :: cs => cs
  | '-' :: cs => cs
  | cs => cs

/-- A decimal number without superfluous zeros at its start. -/
def isDecimal : List Char → Bool
  | ['0'] => true
  | '0' :: _ => false
  | cs => digitGroups Char.isDigit cs

def isHexDigit (c : Char) : Bool :=
  c.isDigit || (decide ('a' ≤ c) && decide (c ≤ 'f')) ||
    (decide ('A' ≤ c) && decide (c ≤ 'F'))

/-- An integer of at most 128 bits. -/
def isInteger : List Char → Bool
  | '0' :: 'x' :: cs => digitGroups isHexDigit cs && fits false (numberIn 16 cs)
  | '0' :: 'o' :: cs =>
    digitGroups (fun c => decide ('0' ≤ c) && decide (c ≤ '7')) cs && fits false (numberIn 8 cs)
  | '0' :: 'b' :: cs =>
    digitGroups (fun c => c == '0' || c == '1') cs && fits false (numberIn 2 cs)
  | cs => isDecimal (unsignedPart cs) && fits (isNegative cs) (numberIn 10 (unsignedPart cs))

def isExponentLetter (c : Char) : Bool :=
  c == 'e' || c == 'E'

/-- The exponent of a floating-point number, written with its letter; nothing stands for zero. -/
def exponent? : List Char → Option Int
  | [] => some 0
  | c :: cs =>
    let digits := unsignedPart cs
    if isExponentLetter c && digitGroups Char.isDigit digits then
      some (if isNegative cs then -(numberIn 10 digits : Int) else numberIn 10 digits)
    else none

/-- Whether the number with these digits before and after the point is finite. -/
def isFiniteFloat (whole part : List Char) (exponent : Int) : Bool :=
  let places := (plainDigits part).length
  decide (Binary64.decimalMagnitude (numberIn 10 (whole ++ part)) (exponent - places) <
    Binary64.infiniteMagnitude)

/-- A floating-point number. Digits must not write one that is too large to be finite. -/
def isFloat (cs : List Char) : Bool :=
  let cs := unsignedPart cs
  if cs = "inf".toList ∨ cs = "nan".toList then true
  else
    let whole := cs.takeWhile fun c => c != '.' && !isExponentLetter c
    match cs.drop whole.length with
    | [] => false
    | '.' :: rest =>
      let part := rest.takeWhile fun c => !isExponentLetter c
      isDecimal whole && digitGroups Char.isDigit part &&
        (exponent? (rest.drop part.length)).any (isFiniteFloat whole part)
    | rest => isDecimal whole && (exponent? rest).any (isFiniteFloat whole [])

/-- The value of exactly `n` digits at the start, and the text after them. -/
def digitsAt? (n : Nat) (cs : List Char) : Option (Nat × List Char) :=
  let ds := cs.take n
  if ds.length = n ∧ ds.all Char.isDigit then
    some (ds.foldl (fun v c => 10 * v + (c.toNat - '0'.toNat)) 0, cs.drop n)
  else none

/-- The text after a given character. -/
def after? (c : Char) : List Char → Option (List Char)
  | d :: cs => if d = c then some cs else none
  | [] => none

def daysIn (year month : Nat) : Nat :=
  if month = 2 then (if year % 4 = 0 ∧ (year % 100 ≠ 0 ∨ year % 400 = 0) then 29 else 28)
  else if month = 4 ∨ month = 6 ∨ month = 9 ∨ month = 11 then 30
  else 31

/-- The text after a date. -/
def afterDate? (cs : List Char) : Option (List Char) := do
  let (year, cs) ← digitsAt? 4 cs
  let cs ← after? '-' cs
  let (month, cs) ← digitsAt? 2 cs
  let cs ← after? '-' cs
  let (day, cs) ← digitsAt? 2 cs
  if 1 ≤ month ∧ month ≤ 12 ∧ 1 ≤ day ∧ day ≤ daysIn year month then some cs else none

/-- The text after the seconds of a time, with their fraction. -/
def afterSeconds? (cs : List Char) : Option (List Char) := do
  let (second, cs) ← digitsAt? 2 cs
  if 60 < second then none
  else
    match cs with
    | '.' :: rest =>
      let part := rest.takeWhile Char.isDigit
      if part = [] then none else some (rest.drop part.length)
    | cs => some cs

/-- The text after a time of day, which may leave out the seconds. -/
def afterTime? (cs : List Char) : Option (List Char) := do
  let (hour, cs) ← digitsAt? 2 cs
  let cs ← after? ':' cs
  let (minute, cs) ← digitsAt? 2 cs
  if 23 < hour ∨ 59 < minute then none
  else
    match cs with
    | ':' :: rest => afterSeconds? rest
    | cs => some cs

/-- What may follow a time of day after a date: nothing, or how far it is from universal time. -/
def isOffset : List Char → Bool
  | [] => true
  | ['Z'] => true
  | ['z'] => true
  | sign :: cs =>
    (sign == '+' || sign == '-') &&
      (match cs with
       | [h, i, ':', m, n] =>
         match digitsAt? 4 [h, i, m, n] with
         | some (v, _) => decide (v / 100 ≤ 23) && decide (v % 100 ≤ 59)
         | none => false
       | _ => false)

def isDateTime (cs : List Char) : Bool :=
  match afterDate? cs with
  | some [] => true
  | some (c :: rest) =>
    (c == 'T' || c == 't' || c == ' ') && (afterTime? rest).any isOffset
  | none => (afterTime? cs).any List.isEmpty

def isScalar (cs : List Char) : Bool :=
  decide (cs = "true".toList) || decide (cs = "false".toList) || isInteger cs || isFloat cs ||
    isDateTime cs

/-- Whether a character may stand in a plain value. -/
def isScalarCharacter (c : Char) : Bool :=
  c.isAlphanum || c == '+' || c == '-' || c == '_' || c == '.' || c == ':'

/-- Reads a plain value that starts here. A space may part a date from its time. -/
def scalarEnd? (cs : List Char) : Option (List Char) :=
  let first := cs.takeWhile isScalarCharacter
  let rest := cs.drop first.length
  match afterDate? first, rest with
  | some [], ' ' :: c :: more =>
    if c.isDigit then
      let time := (c :: more).takeWhile isScalarCharacter
      if isScalar (first ++ ' ' :: time) then some ((c :: more).drop time.length) else none
    else some rest
  | _, _ => if isScalar first then some rest else none

end ControlPanel.Toml
