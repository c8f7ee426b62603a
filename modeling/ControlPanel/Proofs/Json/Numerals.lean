import ControlPanel.Proofs.Json.Grammar
import ControlPanel.Proofs.Number.Written

namespace ControlPanel.Json

namespace Numeral

/-- The power of ten that follows the digits. -/
def exponent (n : Numeral) : ℤ :=
  match n.power with
  | none => 0
  | some p => if p.sign = ['-'] then -(digitsValue p.digits : ℤ) else digitsValue p.digits

/-- The decimal that a numeral writes after its sign. -/
def decimal (n : Numeral) : Decimal :=
  ⟨n.digits, n.exponent - n.places⟩

/-- The rational number that a numeral writes. -/
def rational (n : Numeral) : ℚ :=
  if n.negative then -n.decimal.value else n.decimal.value

/-- The text of a numeral. -/
def chars (n : Numeral) : List Char :=
  if n.negative then '-' :: n.sizeChars else n.sizeChars

theorem chars_eq_signed {n : Numeral} {x : Binary64} (hsign : n.negative = x.isNegative) :
    n.chars = x.signed n.sizeChars := by
  rw [chars, hsign, Binary64.signed]

variable {negative : Bool} {whole part : List Char} {power : Option Power} {d : Decimal}

/-- The numeral of digits before and after a point, which is left out if none follow. -/
def ofParts (negative : Bool) (whole part : List Char) (power : Option Power) : Numeral where
  negative := negative
  whole := whole
  part := if part = [] then none else some part
  power := power

theorem ofParts_part_getD : (ofParts negative whole part power).part.getD [] = part := by
  rw [ofParts]
  split_ifs with hempty
  · exact hempty.symm
  · rfl

theorem wellFormed_ofParts (hwhole : Whole whole) (hpart : AllDigits part)
    (hpower : ∀ p, power = some p → p.WellFormed) :
    (ofParts negative whole part power).WellFormed where
  whole := hwhole
  part ds hds := by
    rw [ofParts] at hds
    split_ifs at hds with hempty
    cases hds
    exact ⟨hempty, hpart⟩
  power := hpower

theorem wellFormed_ofParts_none (hwhole : Whole whole) (hpart : AllDigits part) :
    (ofParts negative whole part none).WellFormed :=
  wellFormed_ofParts hwhole hpart (by simp)

theorem sizeChars_ofParts : (ofParts negative whole part power).sizeChars =
    Binary64.pointed whole part ++ powerChars power := by
  rw [sizeChars, ofParts, Binary64.pointed]
  split_ifs <;> simp [partChars]

theorem digits_ofParts :
    (ofParts negative whole part power).digits = digitsValue (whole ++ part) := by
  rw [digits, ofParts_part_getD]
  rfl

theorem places_ofParts : (ofParts negative whole part power).places = part.length := by
  rw [places, ofParts_part_getD]

theorem decimal_value_ofParts :
    (ofParts negative whole part none).decimal.value = Decimal.placedValue whole part := by
  rw [Decimal.placedValue, Decimal.value, decimal, digits_ofParts, places_ofParts, exponent]
  simp only [ofParts, zero_sub]
  rfl

/-- All digits of a decimal around a point. -/
theorem exists_plain (negative : Bool) (hd : 0 < d.digits) :
    ∃ n : Numeral, n.negative = negative ∧ n.WellFormed ∧ n.sizeChars = d.plain ∧
      n.power = none ∧ (∀ ds, n.part = some ds → ds = d.placed.2) ∧ n.decimal.value = d.value := by
  obtain ⟨hwhole, hpart, hvalue⟩ := Decimal.placed_spec hd
  refine ⟨ofParts negative d.placed.1 d.placed.2 none, rfl, wellFormed_ofParts_none hwhole hpart,
    ?_, rfl, fun ds hds => ?_, decimal_value_ofParts.trans hvalue⟩
  · rw [sizeChars_ofParts, powerChars, List.append_nil, Binary64.plain_eq_pointed]
  · rw [ofParts] at hds
    split_ifs at hds
    cases hds
    rfl

/-- All digits of a decimal around a point, with at least one after it. -/
theorem exists_fractional (negative : Bool) (hd : 0 < d.digits) :
    ∃ n : Numeral, n.negative = negative ∧ n.WellFormed ∧ n.sizeChars = d.fractional ∧
      n.part ≠ none ∧ n.exponent = 0 ∧ n.decimal.value = d.value := by
  obtain ⟨hwhole, hpart, hvalue⟩ := Decimal.placed_spec hd
  rw [Decimal.fractional]
  generalize d.placed = placed at hwhole hpart hvalue ⊢
  obtain ⟨whole, part⟩ := placed
  cases part with
  | nil =>
      have hsame : Decimal.placedValue whole ['0'] = Decimal.placedValue whole [] := by
        simp [Decimal.placedValue, Nat.ofDigitChars_append, Nat.ofDigitChars_cons, mul_comm]
      refine ⟨ofParts negative whole ['0'] none, rfl,
        wellFormed_ofParts_none hwhole (by simp [AllDigits]), ?_, by simp [ofParts], rfl,
        decimal_value_ofParts.trans (hsame.trans hvalue)⟩
      simp [sizeChars_ofParts, Binary64.pointed, powerChars]
  | cons c part =>
      refine ⟨ofParts negative whole (c :: part) none, rfl, wellFormed_ofParts_none hwhole hpart,
        ?_, by simp [ofParts], rfl, decimal_value_ofParts.trans hvalue⟩
      simp [sizeChars_ofParts, Binary64.pointed, powerChars]

end Numeral

/-- The exponent that the printer writes. -/
def writtenPower (e : Int) : Power where
  mark := 'e'
  sign := [if e < 0 then '-' else '+']
  digits := Nat.toDigits 10 e.natAbs

theorem writtenPower_wellFormed (e : Int) : (writtenPower e).WellFormed where
  mark := .inl rfl
  sign := by
    rw [writtenPower]
    split_ifs <;> simp
  nonempty := Nat.toDigits_ne_nil
  digits := allDigits_toDigits _

theorem exponent_writtenPower (e : ℤ) (negative : Bool) (whole part : List Char) :
    (Numeral.ofParts negative whole part (some (writtenPower e))).exponent = e := by
  have hdigits : digitsValue (writtenPower e).digits = e.natAbs := Nat.ofDigitChars_ten_toDigits
  simp only [Numeral.exponent, Numeral.ofParts, hdigits]
  by_cases hneg : e < 0
  · rw [if_pos (by simp [writtenPower, hneg])]
    omega
  · rw [if_neg (by simp [writtenPower, hneg])]
    omega

/-- One digit of a decimal before a point, and an exponent. -/
theorem Numeral.exists_scientific (negative : Bool) {d : Decimal} (hd : 0 < d.digits) :
    ∃ n : Numeral, n.negative = negative ∧ n.WellFormed ∧ n.sizeChars = d.scientific ∧
      n.power ≠ none ∧ n.exponent = d.leadingExponent ∧ n.decimal.value = d.value := by
  obtain ⟨c, cs, hcons, hc, hne, hcs⟩ := exists_toDigits_eq_cons hd
  refine ⟨ofParts negative [c] cs (some (writtenPower d.leadingExponent)), rfl,
    wellFormed_ofParts (.digits hc hne (by simp [AllDigits])) hcs ?_, ?_, by simp [ofParts],
    exponent_writtenPower _ _ _ _, ?_⟩
  · rintro p ⟨⟩
    exact writtenPower_wellFormed _
  · rw [sizeChars_ofParts, Decimal.scientific, Decimal.digitChars, hcons]
    cases cs <;> simp [Binary64.pointed, powerChars, writtenPower]
  · have hdigits : digitsValue ([c] ++ cs) = d.digits := by
      rw [List.singleton_append, ← hcons]
      exact Nat.ofDigitChars_ten_toDigits
    have hplaces : d.leadingExponent - cs.length = d.exponent := by
      rw [Decimal.leadingExponent, Decimal.digitChars, hcons, List.length_cons]
      push_cast
      ring
    rw [Decimal.value, decimal, digits_ofParts, places_ofParts, exponent_writtenPower, hdigits,
      hplaces, Decimal.value]

/-- The text of a finite number in a saved project is a numeral with a point or an exponent. -/
theorem Numeral.exists_saved {x : Binary64} (hfinite : x.isFinite = true) :
    ∃ n : Numeral, n.negative = x.isNegative ∧ n.WellFormed ∧ n.chars = x.savedChars ∧
      (n.part ≠ none ∨ n.power ≠ none) ∧ n.exponent.natAbs ≤ maxExponent ∧
      n.decimal.value = if x.isZero then 0 else (x.shortest .toEven).value := by
  rw [Binary64.savedChars]
  by_cases hzero : x.isZero = true
  · have hvalue : Decimal.placedValue ['0'] ['0'] = 0 := by
      simp [Decimal.placedValue, Nat.ofDigitChars_cons]
    refine ⟨ofParts x.isNegative ['0'] ['0'] none, rfl,
      wellFormed_ofParts_none .zero (by simp [AllDigits]), ?_, .inl (by simp [ofParts]),
      Nat.zero_le _, ?_⟩
    · rw [if_pos hzero, chars_eq_signed rfl]
      rfl
    · rw [if_pos hzero, decimal_value_ofParts, hvalue]
  · rw [if_neg hzero, if_neg hzero]
    rw [Bool.not_eq_true] at hzero
    have hdigits := Binary64.digits_shortest_pos hzero .toEven
    obtain ⟨hlow, hhigh⟩ := Binary64.leadingExponent_shortest hfinite hzero .toEven
    dsimp only
    split_ifs
    · obtain ⟨n, hsign, hn, hchars, hpart, hexponent, hvalue⟩ :=
        exists_fractional x.isNegative hdigits
      refine ⟨n, hsign, hn, ?_, .inl hpart, ?_, hvalue⟩
      · rw [chars_eq_signed hsign, hchars]
      · rw [hexponent]
        exact Nat.zero_le _
    · obtain ⟨n, hsign, hn, hchars, hpower, hexponent, hvalue⟩ :=
        exists_scientific x.isNegative hdigits
      refine ⟨n, hsign, hn, ?_, .inr hpower, ?_, hvalue⟩
      · rw [chars_eq_signed hsign, hchars]
      · rw [hexponent, maxExponent]
        omega

end ControlPanel.Json
