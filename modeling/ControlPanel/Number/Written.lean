import ControlPanel.Number.Shortest

namespace ControlPanel

namespace Decimal

/-- The digits, most significant first. -/
def digitChars (d : Decimal) : List Char :=
  Nat.toDigits 10 d.digits

/-- The exponent of the first digit. -/
def leadingExponent (d : Decimal) : Int :=
  d.exponent + d.digitChars.length - 1

/-- The digits before the point and those after it. -/
def placed (d : Decimal) : List Char × List Char :=
  let ds := d.digitChars
  let places := (-d.exponent).toNat
  if places = 0 then (ds ++ List.replicate d.exponent.toNat '0', [])
  else if places < ds.length then (ds.take (ds.length - places), ds.drop (ds.length - places))
  else (['0'], List.replicate (places - ds.length) '0' ++ ds)

/-- All digits around the point, which is left out when nothing follows it. -/
def plain (d : Decimal) : List Char :=
  match d.placed with
  | (whole, []) => whole
  | (whole, part) => whole ++ '.' :: part

/-- All digits around the point, with at least one after it. -/
def fractional (d : Decimal) : List Char :=
  match d.placed with
  | (whole, []) => whole ++ ['.', '0']
  | (whole, part) => whole ++ '.' :: part

/-- One digit before the point, and the power of ten with its sign. -/
def scientific (d : Decimal) : List Char :=
  let e := d.leadingExponent
  let mantissa :=
    match d.digitChars with
    | first :: second :: rest => first :: '.' :: second :: rest
    | ds => ds
  mantissa ++ ['e', if e < 0 then '-' else '+'] ++ Nat.toDigits 10 e.natAbs

end Decimal

namespace Binary64

/-- A sign in front of the text of a negative number. -/
def signed (x : Binary64) (text : List Char) : List Char :=
  if x.isNegative then '-' :: text else text

/-- The text of a finite number in a script. Both zeros are `0`, and of two equally near decimals
the larger one is written. -/
def scriptChars (x : Binary64) : List Char :=
  if x.isZero then ['0'] else x.signed (x.shortest .awayFromZero).plain

/-- The text of a finite number in a saved project. First digits from `10 ^ -5` to `10 ^ 15` are
placed around the point, and of two equally near decimals the even one is written. -/
def savedChars (x : Binary64) : List Char :=
  if x.isZero then x.signed ['0', '.', '0']
  else
    let d := x.shortest .toEven
    x.signed
      (if -5 ≤ d.leadingExponent ∧ d.leadingExponent ≤ 15 then d.fractional else d.scientific)

/-- The number as a message shows it, whether finite or not. -/
def shown (x : Binary64) : String :=
  if x.isFinite then String.ofList x.savedChars
  else if x.magnitude = infiniteMagnitude then (if x.isNegative then "-inf" else "inf")
  else "NaN"

end Binary64

end ControlPanel
