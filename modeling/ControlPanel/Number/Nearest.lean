import ControlPanel.Number.Binary64

namespace ControlPanel

/-- A quotient rounded to the nearest natural number, a half to the even neighbour. -/
def roundHalfEven (num den : Nat) : Nat :=
  let q := num / den
  let r := num % den
  if 2 * r < den then q
  else if den < 2 * r then q + 1
  else if q % 2 = 0 then q
  else q + 1

namespace Binary64

/-- The power of two of the last significand bit of numbers as large as the quotient. -/
def scaleOfQuotient (num den : Nat) : Int :=
  let top : Int := (num.log2 : Int) - den.log2
  let top := if num * Nat.pow 2 (-top).toNat < den * Nat.pow 2 top.toNat then top - 1 else top
  max (-1074) (top - 52)

/-- The magnitude nearest to a quotient of naturals. -/
def nearestMagnitude (num den : Nat) : Nat :=
  let q := scaleOfQuotient num den
  let m := roundHalfEven (num * Nat.pow 2 (-q).toNat) (den * Nat.pow 2 q.toNat)
  min ((q + 1074).toNat * Nat.pow 2 52 + m) infiniteMagnitude

/-- The magnitude nearest to `digits * 10 ^ exponent`. From `10 ^ 310` on all values are infinite,
and below half of the least positive number all are zero. -/
def decimalMagnitude (digits : Nat) (exponent : Int) : Nat :=
  if digits = 0 then 0
  else if 310 ≤ exponent then infiniteMagnitude
  else if digits.log2 + 1076 + 3 * exponent ≤ 0 then 0
  else nearestMagnitude (digits * Nat.pow 10 exponent.toNat) (Nat.pow 10 (-exponent).toNat)

/-- The number nearest to the decimal, with its sign also when it is zero. -/
def ofDecimal (negative : Bool) (digits : Nat) (exponent : Int) : Binary64 :=
  ofMagnitude negative (decimalMagnitude digits exponent)

end Binary64

end ControlPanel
