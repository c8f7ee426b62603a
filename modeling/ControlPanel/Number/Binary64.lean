/-!
A finite number stands for its sign times `significand * 2 ^ scale`.
-/

namespace ControlPanel

/-- A number of the binary64 format, by its bits. Two zeros and many texts of bits that are no
number exist. -/
structure Binary64 where
  bits : UInt64
deriving DecidableEq, Repr

namespace Binary64

/-- The bits without the sign. They grow with the size of the number. -/
def magnitude (x : Binary64) : Nat :=
  x.bits.toNat % Nat.pow 2 63

/-- The bits of the infinities without the sign; only what is no number lies above. -/
def infiniteMagnitude : Nat := 2047 * Nat.pow 2 52

/-- The number with the given sign and magnitude. -/
def ofMagnitude (negative : Bool) (magnitude : Nat) : Binary64 :=
  ⟨UInt64.ofNat (if negative then Nat.pow 2 63 + magnitude else magnitude)⟩

def isNegative (x : Binary64) : Bool :=
  decide (Nat.pow 2 63 ≤ x.bits.toNat)

def isFinite (x : Binary64) : Bool :=
  decide (x.magnitude < infiniteMagnitude)

def isZero (x : Binary64) : Bool :=
  x.magnitude == 0

/-- The eleven bits of exponent; zero marks the numbers around zero, whose spacing is constant. -/
def exponentField (x : Binary64) : Nat :=
  x.magnitude / Nat.pow 2 52

def fraction (x : Binary64) : Nat :=
  x.magnitude % Nat.pow 2 52

def significand (x : Binary64) : Nat :=
  if x.exponentField = 0 then x.fraction else Nat.pow 2 52 + x.fraction

/-- The power of two that one unit of the significand stands for. -/
def scale (x : Binary64) : Int :=
  if x.exponentField = 0 then -1074 else x.exponentField - 1075

/-- Whether the number below is only half as far away as the number above. -/
def isNarrowBelow (x : Binary64) : Bool :=
  x.fraction == 0 && decide (1 < x.exponentField)

def zero : Binary64 := ⟨0⟩

end Binary64

end ControlPanel
