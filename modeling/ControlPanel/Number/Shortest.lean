import ControlPanel.Number.Binary64

namespace ControlPanel

/-- The decimal `digits * 10 ^ exponent`. -/
structure Decimal where
  digits : Nat
  exponent : Int
deriving DecidableEq, Repr

/-- Which of two equally near decimals is taken. -/
inductive Tie where
  | toEven
  | awayFromZero
deriving DecidableEq, Repr

namespace Decimal

/-- Compares `digits * 10 ^ exponent` with `m * 2 ^ scale`, exactly. -/
def compareScaled (d : Decimal) (m : Nat) (scale : Int) : Ordering :=
  compare (d.digits * Nat.pow 10 d.exponent.toNat * Nat.pow 2 (-scale).toNat)
    (m * Nat.pow 2 scale.toNat * Nat.pow 10 (-d.exponent).toNat)

/-- The decimal without zeros at the end of its digits. -/
def strip : Nat → Decimal → Decimal
  | 0, d => d
  | fuel + 1, d =>
    if 0 < d.digits ∧ d.digits % 10 = 0 then strip fuel ⟨d.digits / 10, d.exponent + 1⟩ else d

end Decimal

namespace Binary64

/-- Whether the decimal lies among the values nearest to the size of the number. Distances are
counted in quarters of a significand unit; the ends belong to the number with the even
significand. -/
def readsBack (x : Binary64) (d : Decimal) : Bool :=
  let low := if x.isNarrowBelow then 4 * x.significand - 1 else 4 * x.significand - 2
  let fromLow := d.compareScaled low (x.scale - 2)
  let fromHigh := d.compareScaled (4 * x.significand + 2) (x.scale - 2)
  let closed := x.significand % 2 == 0
  (fromLow == .gt || (closed && fromLow == .eq)) && (fromHigh == .lt || (closed && fromHigh == .eq))

/-- The number of decimal digits before the point, counted from the first that is not zero; it is
negative when zeros follow the point. -/
def decimalPoint (x : Binary64) : Int :=
  let low : Int := ((x.significand.log2 : Int) + x.scale) * 30103 / 100000
  let below (k : Int) : Bool := (⟨1, k⟩ : Decimal).compareScaled x.significand x.scale == .gt
  if below low then low
  else if below (low + 1) then low + 1
  else low + 2

/-- The multiples of `10 ^ place` on both sides of the number, and how the first is the nearer. -/
def neighbours (x : Binary64) (place : Int) : Nat × Ordering :=
  let num := x.significand * Nat.pow 2 x.scale.toNat * Nat.pow 10 (-place).toNat
  let den := Nat.pow 2 (-x.scale).toNat * Nat.pow 10 place.toNat
  (num / den, compare (2 * (num % den)) den)

/-- The multiple of `10 ^ place` that reads back as the number and is the nearest to it, if there
is one. -/
def nearestOnGrid? (x : Binary64) (tie : Tie) (place : Int) : Option Decimal :=
  let (lower, half) := x.neighbours place
  let below : Decimal := ⟨lower, place⟩
  let above : Decimal := ⟨lower + 1, place⟩
  match x.readsBack below, x.readsBack above with
  | false, false => none
  | true, false => some below
  | false, true => some above
  | true, true =>
    match half, tie with
    | .lt, _ => some below
    | .gt, _ => some above
    | .eq, .awayFromZero => some above
    | .eq, .toEven => some (if lower % 2 = 0 then below else above)

/-- The value of the number in full. -/
def exactDecimal (x : Binary64) : Decimal :=
  ⟨x.significand * Nat.pow 2 x.scale.toNat * Nat.pow 5 (-x.scale).toNat, min x.scale 0⟩

/-- Tries ever finer grids, starting at the given place. -/
def shortestFrom (x : Binary64) (tie : Tie) : Nat → Int → Decimal
  | 0, _ => x.exactDecimal
  | fuel + 1, place => (x.nearestOnGrid? tie place).getD (shortestFrom x tie fuel (place - 1))

/-- The most digits that a finite number needs when written in full. -/
def fullDigits : Nat := 767

/-- The shortest decimal for the size of a finite number other than zero. -/
def shortest (x : Binary64) (tie : Tie) : Decimal :=
  (shortestFrom x tie fullDigits (x.decimalPoint - 1)).strip fullDigits

end Binary64

end ControlPanel
