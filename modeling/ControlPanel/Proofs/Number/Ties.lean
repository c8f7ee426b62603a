import ControlPanel.Proofs.Number.Fewest
import ControlPanel.Proofs.Number.Rounding

namespace ControlPanel

/-- The decimal after this one among those with a last digit at the same place. -/
def Decimal.next (d : Decimal) : Decimal :=
  ⟨d.digits + 1, d.exponent⟩

theorem Decimal.value_lt_next (d : Decimal) : d.value < d.next.value := by
  rw [value, value, next]
  gcongr
  exact Nat.lt_succ_self _

theorem Decimal.value_add_next (d : Decimal) :
    d.value + d.next.value = (2 * d.digits + 1 : ℕ) * 10 ^ d.exponent := by
  rw [value, value, next]
  push_cast
  ring

/-- A decimal without a zero at its end cannot be written with fewer digits than it has. -/
theorem Decimal.digits_lt_of_hasDigits {count : Nat} {d : Decimal} (h : HasDigits count d.value)
    (hlast : d.digits % 10 ≠ 0) : d.digits < 10 ^ count := by
  obtain ⟨d', hdigits, hvalue⟩ := h
  rw [abs_of_nonneg d.value_nonneg] at hvalue
  rcases lt_or_ge d.exponent d'.exponent with hcoarse | hfine
  · obtain ⟨k, hk⟩ : ∃ k, (d'.exponent - d.exponent).toNat = k + 1 :=
      ⟨(d'.exponent - d.exponent).toNat - 1, by omega⟩
    rw [d'.value_finer hcoarse.le, value, hk, pow_succ, ← mul_assoc] at hvalue
    have hdigits : d.digits = d'.digits * 10 ^ k * 10 := by
      exact_mod_cast mul_right_cancel₀ (by positivity) hvalue
    omega
  · rw [d.value_finer hfine, value] at hvalue
    have hdigits' : d.digits * 10 ^ (d.exponent - d'.exponent).toNat = d'.digits := by
      exact_mod_cast mul_right_cancel₀ (by positivity) hvalue
    have hpos : 0 < 10 ^ (d.exponent - d'.exponent).toNat := by positivity
    calc d.digits ≤ d.digits * 10 ^ (d.exponent - d'.exponent).toNat :=
          Nat.le_mul_of_pos_right _ hpos
      _ = d'.digits := hdigits'
      _ < 10 ^ count := hdigits

theorem Decimal.digits_lt_of_hasDigits_next {count : Nat} {d : Decimal}
    (h : HasDigits count d.value) (hnext : HasDigits count d.next.value) :
    d.digits < 10 ^ count := by
  by_cases hlast : d.digits % 10 = 0
  · have hlast' : (d.digits + 1) % 10 ≠ 0 := by omega
    exact (Nat.lt_succ_self _).trans (digits_lt_of_hasDigits hnext hlast')
  · exact digits_lt_of_hasDigits h hlast

namespace Binary64

/-- The rational number reads back as the number, and none with fewer digits does. -/
structure IsShortest (q : ℚ) (x : Binary64) : Prop where
  rounds : RoundsTo q x
  fewest : ∀ count q', HasDigits count q' → RoundsTo q' x → HasDigits count q

/-- The number lies half-way between a decimal and the next one, with its sign, and both of them are
shortest for it. -/
structure IsHalfway (x : Binary64) (d : Decimal) : Prop where
  lower : IsShortest (x.along d.value) x
  upper : IsShortest (x.along d.next.value) x
  half : 2 * |x.value| = d.value + d.next.value

variable {x : Binary64} {tie : Tie} {place : ℤ} {d d' : Decimal} {q : ℚ} {count : Nat}

theorem along_along (x : Binary64) (q : ℚ) : x.along (x.along q) = q := by
  rw [along, along]
  split_ifs
  · exact neg_neg q
  · rfl

theorem hasDigits_along : HasDigits count (x.along q) ↔ HasDigits count q := by
  rw [HasDigits, HasDigits, x.abs_along]

theorem IsShortest.isNearest (h : IsShortest (x.along q) x) : IsNearest q x.magnitude := by
  rw [← x.along_along q]
  exact h.rounds.isNearest

theorem IsShortest.hasDigits (h : IsShortest (x.along q) x) (hx : 0 < x.magnitude)
    (hnearest : IsNearest d.value x.magnitude) (hcount : HasDigits count d.value) :
    HasDigits count q := by
  refine hasDigits_along.mp (h.fewest count (x.along d.value) (hasDigits_along.mpr hcount) ?_)
  refine roundsTo_of_isNearest h.rounds.finite hx ?_
  rwa [x.along_along]

/-- What a number is written with. -/
theorem isShortest_shortest (hfinite : x.isFinite = true) (hx : 0 < x.magnitude) (tie : Tie) :
    IsShortest (x.along (x.shortest tie).value) x where
  rounds := by
    refine roundsTo_of_isNearest hfinite hx ?_
    rw [x.along_along]
    exact x.isNearest_shortest tie
  fewest count q hq hrounds := by
    obtain ⟨d, hdigits, hd⟩ := hq
    have hnearest := hrounds.isNearest
    rw [← abs_of_pos (hnearest.pos hx), x.abs_along, hd] at hnearest
    exact hasDigits_along.mpr (shortest_fewest hfinite hx tie hdigits hnearest)

theorem isShortest_zero (hfinite : x.isFinite = true) (hzero : x.isZero = true) :
    IsShortest 0 x := by
  have hx := isZero_iff_value.mp hzero
  refine ⟨⟨hfinite, ?_, fun y _ => ?_, fun y _ _ _ => ?_⟩, fun count q _ _ => ?_⟩
  · rw [abs_zero, sub_pos]
    exact zpow_lt_zpow_right₀ (by norm_num) (by norm_num)
  · rw [hx, sub_zero, abs_zero]
    exact abs_nonneg _
  · rw [significand_parity, beq_iff_eq.mp hzero]
  · exact ⟨⟨0, 0⟩, by positivity, by rw [Decimal.value]; simp⟩

/-- A number is half-way between its neighbours on a grid exactly if twice its size is an odd
multiple. -/
theorem neighbours_eq_half_iff {n : Nat} : x.neighbours place = (n, .eq) ↔
    2 * sizeAt x.magnitude = (2 * n + 1 : ℕ) * 10 ^ place := by
  obtain ⟨num, den, hden, hneighbours, hquotient⟩ := x.exists_neighbours_eq place
  have hden' : (den : ℚ) ≠ 0 := by exact_mod_cast hden.ne'
  have hunit : (10 : ℚ) ^ place ≠ 0 := by positivity
  have hsize : 2 * sizeAt x.magnitude = (2 * n + 1 : ℕ) * 10 ^ place ↔
      2 * num = (2 * n + 1) * den := by
    rw [← mul_left_inj' hden', mul_assoc, hquotient, mul_right_comm, ← mul_assoc,
      mul_left_inj' hunit]
    exact_mod_cast Iff.rfl
  rw [hsize, hneighbours, Prod.mk.injEq, compare_eq_iff_eq]
  constructor
  · rintro ⟨rfl, hhalf⟩
    have hsplit := Nat.div_add_mod' num den
    rw [Nat.add_mul, Nat.mul_assoc]
    omega
  · intro hnum
    rw [Nat.add_mul, Nat.mul_assoc] at hnum
    have hdiv : num / den = n ∧ num % den = num - n * den :=
      (Nat.div_mod_unique hden).mpr ⟨by rw [Nat.mul_comm den]; omega, by omega⟩
    exact ⟨hdiv.1, by omega⟩

/-- On a grid it matters which way a tie goes only if the number is half-way between two decimals
there. -/
theorem nearestOnGrid?_eq_or_half (heven : x.nearestOnGrid? .toEven place = some d)
    (haway : x.nearestOnGrid? .awayFromZero place = some d') :
    d' = d ∨ d' = d.next ∧ 2 * sizeAt x.magnitude = d.value + d.next.value := by
  simp only [nearestOnGrid?] at heven haway
  split at heven <;> simp only [*] at haway
  · cases heven
  · cases heven
    cases haway
    exact .inl rfl
  · cases heven
    cases haway
    exact .inl rfl
  · cases hhalf : (x.neighbours place).2 <;> simp only [hhalf] at heven haway
    · cases heven
      cases haway
      exact .inl rfl
    · cases haway
      split_ifs at heven with hparity
      · cases heven
        refine .inr ⟨rfl, ?_⟩
        rw [neighbours_eq_half_iff.mp (Prod.ext rfl hhalf), Decimal.value_add_next]
      · cases heven
        exact .inl rfl
    · cases heven
      cases haway
      exact .inl rfl

namespace IsHalfway

theorem magnitude_pos (h : x.IsHalfway d) : 0 < x.magnitude := by
  have hhalf := h.half
  have hlow := d.value_nonneg
  have hnext := d.value_lt_next
  by_contra hzero
  rw [x.abs_value, Nat.eq_zero_of_not_pos hzero, sizeAt_zero] at hhalf
  linarith

theorem bounds (h : x.IsHalfway d) : 0 < d.value ∧ d.value < sizeAt x.magnitude ∧
    sizeAt x.magnitude < d.next.value := by
  have hhalf := h.half
  have hnext := d.value_lt_next
  rw [x.abs_value] at hhalf
  exact ⟨h.lower.isNearest.pos h.magnitude_pos, by linarith, by linarith⟩

theorem neighbours_eq (h : x.IsHalfway d) : x.neighbours d.exponent = (d.digits, .eq) := by
  rw [neighbours_eq_half_iff, ← x.abs_value, h.half, Decimal.value_add_next]

theorem readsBack (h : x.IsHalfway d) : x.readsBack d = true ∧ x.readsBack d.next = true :=
  ⟨(readsBack_iff h.magnitude_pos).mpr h.lower.isNearest,
    (readsBack_iff h.magnitude_pos).mpr h.upper.isNearest⟩

theorem exponent_lt (h : x.IsHalfway d) : d.exponent < x.decimalPoint := by
  obtain ⟨hpos, hlow, -⟩ := h.bounds
  obtain ⟨-, hpoint⟩ := decimalPoint_spec h.lower.rounds.finite h.magnitude_pos
  have hdigits : (1 : ℚ) ≤ d.digits := by
    exact_mod_cast Decimal.digits_pos_of_value_pos hpos
  refine (zpow_lt_zpow_iff_right₀ (by norm_num : (1 : ℚ) < 10)).mp ?_
  calc (10 : ℚ) ^ d.exponent ≤ d.digits * 10 ^ d.exponent :=
        le_mul_of_one_le_left (by positivity) hdigits
    _ < 10 ^ x.decimalPoint := hlow.trans hpoint

/-- The two decimals have all the digits from the first one of the number to their last place. -/
theorem le_digits (h : x.IsHalfway d) :
    10 ^ (x.decimalPoint - 1 - d.exponent).toNat ≤ d.digits := by
  obtain ⟨-, -, hhigh⟩ := h.bounds
  obtain ⟨hpoint, -⟩ := decimalPoint_spec h.lower.rounds.finite h.magnitude_pos
  have hexponent := h.exponent_lt
  have hunit : (0 : ℚ) < 10 ^ d.exponent := by positivity
  have hsplit : (10 : ℚ) ^ (x.decimalPoint - 1) =
      10 ^ (x.decimalPoint - 1 - d.exponent).toNat * 10 ^ d.exponent :=
    ten_zpow_split (by omega)
  have hlt : (10 : ℚ) ^ (x.decimalPoint - 1 - d.exponent).toNat < (d.digits + 1 : ℕ) := by
    refine lt_of_mul_lt_mul_right ?_ hunit.le
    rw [← hsplit]
    exact hpoint.trans_lt hhigh
  exact Nat.lt_succ_iff.mp (by exact_mod_cast hlt)

/-- On a finer grid than that of its shortest decimals a number needs more digits. -/
theorem le_exponent (h : x.IsHalfway d) (hplace : place < x.decimalPoint)
    (hgrid : x.nearestOnGrid? tie place = some d') : place ≤ d.exponent := by
  have hx := h.magnitude_pos
  by_contra hlt
  have hfound := isNearest_of_nearestOnGrid? hgrid
  have hcount : HasDigits (x.decimalPoint - place).toNat d'.value :=
    hasDigits_of_le (by omega) (digits_le h.lower.rounds.finite hx hplace hgrid).2
  have hfew : d.digits < 10 ^ (x.decimalPoint - place).toNat :=
    Decimal.digits_lt_of_hasDigits_next (h.lower.hasDigits hx hfound hcount)
      (h.upper.hasDigits hx hfound hcount)
  have hmany : 10 ^ (x.decimalPoint - place).toNat ≤ d.digits :=
    (Nat.pow_le_pow_right (by norm_num) (by omega)).trans h.le_digits
  omega

/-- The search for digits stops at the last place of the two decimals. -/
theorem shortest_value (h : x.IsHalfway d) (hgrid : x.nearestOnGrid? tie d.exponent = some d') :
    (x.shortest tie).value = d'.value := by
  obtain ⟨place, hplace, -, hfind, hcoarser⟩ :=
    exists_place h.lower.rounds.finite h.magnitude_pos
  obtain ⟨d₀, hfound, hshortest⟩ := hfind tie
  have hle : d.exponent ≤ place := by
    by_contra hlt
    exact hcoarser d.exponent (by omega) h.exponent_lt (h.lower.isNearest.onGrid le_rfl)
  obtain rfl : place = d.exponent := (h.le_exponent hplace hfound).antisymm hle
  rw [hgrid] at hfound
  cases hfound
  rw [hshortest, Decimal.strip_value]

theorem nearestOnGrid?_awayFromZero (h : x.IsHalfway d) :
    x.nearestOnGrid? .awayFromZero d.exponent = some d.next := by
  obtain ⟨hlow, hhigh⟩ := h.readsBack
  simp only [nearestOnGrid?, h.neighbours_eq]
  rw [hlow, ← Decimal.next, hhigh]

theorem nearestOnGrid?_toEven (h : x.IsHalfway d) :
    x.nearestOnGrid? .toEven d.exponent = some (if d.digits % 2 = 0 then d else d.next) := by
  obtain ⟨hlow, hhigh⟩ := h.readsBack
  simp only [nearestOnGrid?, h.neighbours_eq]
  rw [hlow, ← Decimal.next, hhigh]

/-- Half-way between two shortest decimals the larger one is taken. -/
theorem shortest_awayFromZero (h : x.IsHalfway d) :
    (x.shortest .awayFromZero).value = d.next.value :=
  h.shortest_value h.nearestOnGrid?_awayFromZero

/-- Half-way between two shortest decimals the one with the even last digit is taken. -/
theorem shortest_toEven (h : x.IsHalfway d) :
    (x.shortest .toEven).value = (if d.digits % 2 = 0 then d else d.next).value :=
  h.shortest_value h.nearestOnGrid?_toEven

end IsHalfway

/-- Only half-way between two shortest decimals does it matter which way a tie goes. -/
theorem shortest_eq_or_halfway (hfinite : x.isFinite = true) (hx : 0 < x.magnitude) :
    (x.shortest .awayFromZero).value = (x.shortest .toEven).value ∨ ∃ d, x.IsHalfway d := by
  obtain ⟨place, -, -, hfind, -⟩ := exists_place hfinite hx
  obtain ⟨d, hgrid, hshortest⟩ := hfind .toEven
  obtain ⟨d', hgrid', hshortest'⟩ := hfind .awayFromZero
  have hvalue : (x.shortest .toEven).value = d.value := by
    rw [hshortest, Decimal.strip_value]
  have hvalue' : (x.shortest .awayFromZero).value = d'.value := by
    rw [hshortest', Decimal.strip_value]
  rw [hvalue, hvalue']
  rcases nearestOnGrid?_eq_or_half hgrid hgrid' with rfl | ⟨rfl, hhalf⟩
  · exact .inl rfl
  · refine .inr ⟨d, ?_, ?_, ?_⟩
    · rw [← hvalue]
      exact isShortest_shortest hfinite hx .toEven
    · rw [← hvalue']
      exact isShortest_shortest hfinite hx .awayFromZero
    · rw [x.abs_value, hhalf]

end Binary64

end ControlPanel
