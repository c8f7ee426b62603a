import ControlPanel.Json.Reader
import ControlPanel.Proofs.Number.Digits

/-!
What a JSON text is, said without reading it: each relation below holds between a text, the value
written at its start, and the text left after it. An object keeps its members in the order in which
they are written, repeated keys included; the member that counts for a key is the last one.
-/

namespace ControlPanel.Json

/-- White space at the start of a text. -/
inductive Spaces : List Char → List Char → Prop
  | none (rest : List Char) : Spaces rest rest
  | more {c : Char} {cs rest : List Char} (hc : isSpace c = true) (hcs : Spaces cs rest) :
      Spaces (c :: cs) rest

/-- The characters of a string up to its closing quote, and what they stand for. -/
inductive Characters : List Char → List Char → List Char → Prop
  | close (rest : List Char) : Characters ('"' :: rest) [] rest
  | plain {c : Char} {cs vs rest : List Char} (hquote : c ≠ '"') (hslash : c ≠ '\\')
      (hcontrol : 32 ≤ c.toNat) (hcs : Characters cs vs rest) :
      Characters (c :: cs) (c :: vs) rest
  | letter {e x : Char} {cs vs rest : List Char} (he : letter? e = some x)
      (hcs : Characters cs vs rest) : Characters ('\\' :: e :: cs) (x :: vs) rest
  | unit {a b c d : Char} {u : Nat} {cs vs rest : List Char} (hu : hexUnit? a b c d = some u)
      (hplain : u < 0xD800 ∨ 0xE000 ≤ u) (hcs : Characters cs vs rest) :
      Characters ('\\' :: 'u' :: a :: b :: c :: d :: cs) (Char.ofNat u :: vs) rest
  | pair {a b c d a' b' c' d' : Char} {lead trail : Nat} {cs vs rest : List Char}
      (hlead : hexUnit? a b c d = some lead) (hleadRange : 0xD800 ≤ lead ∧ lead < 0xDC00)
      (htrail : hexUnit? a' b' c' d' = some trail)
      (htrailRange : 0xDC00 ≤ trail ∧ trail < 0xE000) (hcs : Characters cs vs rest) :
      Characters
        ('\\' :: 'u' :: a :: b :: c :: d :: '\\' :: 'u' :: a' :: b' :: c' :: d' :: cs)
        (pairChar lead trail :: vs) rest

/-- The exponent of a number as it is written. -/
structure Power where
  mark : Char
  sign : List Char
  digits : List Char

structure Power.WellFormed (p : Power) : Prop where
  mark : p.mark = 'e' ∨ p.mark = 'E'
  sign : p.sign = [] ∨ p.sign = ['+'] ∨ p.sign = ['-']
  nonempty : p.digits ≠ []
  digits : AllDigits p.digits

/-- The text of an exponent, if there is one. -/
def powerChars : Option Power → List Char
  | none => []
  | some p => p.mark :: (p.sign ++ p.digits)

/-- The text of the digits after a point, if there is one. -/
def partChars : Option (List Char) → List Char
  | none => []
  | some ds => '.' :: ds

/-- A number as it is written. -/
structure Numeral where
  negative : Bool
  whole : List Char
  part : Option (List Char)
  power : Option Power

namespace Numeral

structure WellFormed (n : Numeral) : Prop where
  whole : Whole n.whole
  part : ∀ ds, n.part = some ds → ds ≠ [] ∧ AllDigits ds
  power : ∀ p, n.power = some p → p.WellFormed

/-- The text of the number after its sign. -/
def sizeChars (n : Numeral) : List Char :=
  n.whole ++ (partChars n.part ++ powerChars n.power)

/-- The digits before and after the point, as one number. -/
def digits (n : Numeral) : Nat :=
  digitsValue (n.whole ++ n.part.getD [])

/-- The number of digits after the point. -/
def places (n : Numeral) : Nat :=
  (n.part.getD []).length

end Numeral

/-- A number must not round to an infinity. -/
def finite? (x : Binary64) : Option Json :=
  if x.isFinite then some (.real x) else none

/-- The value of a number with neither point nor exponent: it is whole if it fits 64 bits. -/
def wholeValue? (negative : Bool) (digits : Nat) : Option Json :=
  if negative then
    if 0 < digits ∧ digits ≤ 2 ^ 63 then some (.whole (-digits))
    else finite? (.ofDecimal true digits 0)
  else if digits < 2 ^ 64 then some (.whole digits)
  else finite? (.ofDecimal false digits 0)

/-- The value of a number with an exponent. One too large to count leaves zero or makes the number
too large. -/
def scaledValue? (negative : Bool) (digits places : Nat) (p : Power) : Option Json :=
  let e := digitsValue p.digits
  if e ≤ maxExponent then
    finite? (.ofDecimal negative digits ((if p.sign = ['-'] then -(e : Int) else e) - places))
  else if p.sign = ['-'] ∨ digits = 0 then some (.real (.ofDecimal negative 0 0))
  else none

/-- The value of a number with a point or an exponent. -/
def fractionValue? (negative : Bool) (digits places : Nat) : Option Power → Option Json
  | none => finite? (.ofDecimal negative digits (-(places : Int)))
  | some p => scaledValue? negative digits places p

/-- The value of a number, unless it is too large. -/
def Numeral.value? (n : Numeral) : Option Json :=
  match n.part, n.power with
  | none, none => wholeValue? n.negative n.digits
  | _, power => fractionValue? n.negative n.digits n.places power

/-- A number without its sign. -/
inductive Unsigned (negative : Bool) : List Char → Json → List Char → Prop
  | intro {n : Numeral} {v : Json} (rest : List Char) (hsign : n.negative = negative)
      (hn : n.WellFormed) (hv : n.value? = some v) :
      Unsigned negative (n.sizeChars ++ rest) v rest

/-- A value that is neither an array nor an object. -/
inductive Scalar : List Char → Json → List Char → Prop
  | wordNull (rest : List Char) : Scalar ('n' :: 'u' :: 'l' :: 'l' :: rest) .null rest
  | wordTrue (rest : List Char) : Scalar ('t' :: 'r' :: 'u' :: 'e' :: rest) (.bool true) rest
  | wordFalse (rest : List Char) :
      Scalar ('f' :: 'a' :: 'l' :: 's' :: 'e' :: rest) (.bool false) rest
  | text {cs vs rest : List Char} (hcs : Characters cs vs rest) :
      Scalar ('"' :: cs) (.text (String.ofList vs)) rest
  | negative {cs rest : List Char} {v : Json} (hcs : Unsigned true cs v rest) :
      Scalar ('-' :: cs) v rest
  | positive {cs rest : List Char} {v : Json} (hcs : Unsigned false cs v rest) :
      Scalar cs v rest

section

variable (item : List Char → Json → List Char → Prop)

/-- The items of an array, from the first one to the closing bracket. -/
inductive Items : List Char → List Json → List Char → Prop
  | last {cs mid rest : List Char} {v : Json} (hv : item cs v mid)
      (hend : Spaces mid (']' :: rest)) : Items cs [v] rest
  | more {cs mid cs' next rest : List Char} {v : Json} {vs : List Json} (hv : item cs v mid)
      (hcomma : Spaces mid (',' :: cs')) (hnext : Spaces cs' next) (hvs : Items next vs rest) :
      Items cs (v :: vs) rest

/-- A key and its value. -/
inductive Member : List Char → String × Json → List Char → Prop
  | intro {cs key mid cs' next rest : List Char} {v : Json} (hkey : Characters cs key mid)
      (hcolon : Spaces mid (':' :: cs')) (hnext : Spaces cs' next) (hv : item next v rest) :
      Member ('"' :: cs) (String.ofList key, v) rest

/-- The members of an object, from the first one to the closing brace. -/
inductive Members : List Char → List (String × Json) → List Char → Prop
  | last {cs mid rest : List Char} {m : String × Json} (hm : Member item cs m mid)
      (hend : Spaces mid ('\x7d' :: rest)) : Members cs [m] rest
  | more {cs mid cs' next rest : List Char} {m : String × Json} {ms : List (String × Json)}
      (hm : Member item cs m mid) (hcomma : Spaces mid (',' :: cs')) (hnext : Spaces cs' next)
      (hms : Members next ms rest) : Members cs (m :: ms) rest

/-- An array or an object. -/
inductive Compound : List Char → Json → List Char → Prop
  | emptyArray {cs rest : List Char} (hend : Spaces cs (']' :: rest)) :
      Compound ('[' :: cs) (.array []) rest
  | array {cs cs' rest : List Char} {vs : List Json} (hcs : Spaces cs cs')
      (hvs : Items item cs' vs rest) : Compound ('[' :: cs) (.array vs) rest
  | emptyObject {cs rest : List Char} (hend : Spaces cs ('\x7d' :: rest)) :
      Compound ('\x7b' :: cs) (.object []) rest
  | object {cs cs' rest : List Char} {ms : List (String × Json)} (hcs : Spaces cs cs')
      (hms : Members item cs' ms rest) : Compound ('\x7b' :: cs) (.object ms) rest

end

/-- A value with at most so many arrays and objects inside each other. -/
def Value : Nat → List Char → Json → List Char → Prop
  | 0 => Scalar
  | levels + 1 => fun cs v rest => Scalar cs v rest ∨ Compound (Value levels) cs v rest

/-- The text is JSON and writes the value. At most 127 arrays and objects are inside each other. -/
def TextOf (v : Json) (s : String) : Prop :=
  ∃ cs rest, Spaces s.toList cs ∧ Value 127 cs v rest ∧ Spaces rest []

/-- The value that counts for a key: that of the last member with it. -/
def last? (key : String) (members : List (String × Json)) : Option Json :=
  members.reverse.lookup key

end ControlPanel.Json
