import ControlPanel.Proofs.Number.Interval
import ControlPanel.Proofs.Number.Point

namespace ControlPanel

/-- The number can be written with so many decimal digits, wherever the point stands. -/
def HasDigits (count : Nat) (q : ℚ) : Prop :=
  ∃ d : Decimal, d.digits < 10 ^ count ∧ |q| = d.value

theorem ten_zpow_split {e place : ℤ} {n : Nat} (h : e = n + place) :
    (10 : ℚ) ^ e = 10 ^ n * 10 ^ place := by
  rw [h, zpow_add₀ (by norm_num), zpow_natCast]

theorem HasDigits.mono {a b : Nat} {q : ℚ} (h : HasDigits a q) (hab : a ≤ b) : HasDigits b q := by
  obtain ⟨d, hdigits, hq⟩ := h
  exact ⟨d, hdigits.trans_le (Nat.pow_le_pow_right (by norm_num) hab), hq⟩

namespace Decimal

theorem value_nonneg (d : Decimal) : 0 ≤ d.value := by
  rw [value]
  positivity

theorem value_le_value {d d' : Decimal} (hdigits : d.digits ≤ d'.digits)
    (hexponent : d.exponent ≤ d'.exponent) : d.value ≤ d'.value := by
  rw [value, value]
  gcongr
  norm_num

theorem digits_pos_of_value_pos {d : Decimal} (h : 0 < d.value) : 0 < d.digits := by
  rcases Nat.eq_zero_or_pos d.digits with hzero | hpos
  · rw [value, hzero, Nat.cast_zero, zero_mul] at h
    exact absurd h (lt_irrefl 0)
  · exact hpos

/-- On a finer grid the digits of a decimal are followed by zeros. -/
theorem value_finer (d : Decimal) {place : ℤ} (hplace : place ≤ d.exponent) :
    d.value = (d.digits * 10 ^ (d.exponent - place).toNat : ℕ) * 10 ^ place := by
  have hexponent : d.exponent = (d.exponent - place).toNat + place := by omega
  rw [value, ten_zpow_split hexponent, Nat.cast_mul, Nat.cast_pow, Nat.cast_ofNat, mul_assoc]

/-- Zeros at the end of the digits are taken away until none is left. -/
theorem strip_digits {fuel : Nat} {d : Decimal} (hpos : 0 < d.digits)
    (hfuel : d.digits < 10 ^ fuel) : (d.strip fuel).digits % 10 ≠ 0 := by
  induction fuel generalizing d with
  | zero => omega
  | succ fuel ih =>
      rw [strip]
      split_ifs with h
      · rw [pow_succ] at hfuel
        exact ih (d := ⟨d.digits / 10, d.exponent + 1⟩) (by dsimp only; omega)
          (by dsimp only; omega)
      · omega

end Decimal

namespace Binary64

/-- Some multiple of `10 ^ place` reads back as the number. -/
def OnGrid (x : Binary64) (place : ℤ) : Prop :=
  ∃ n : Nat, IsNearest (n * 10 ^ place) x.magnitude

section Grid

variable {x : Binary64} {tie : Tie} {place : ℤ} {d d' : Decimal}

/-- The neighbours come from a quotient that stands for the number in units of `10 ^ place`. -/
theorem exists_neighbours_eq (x : Binary64) (place : ℤ) :
    ∃ num den : Nat, 0 < den ∧
      x.neighbours place = (num / den, compare (2 * (num % den)) den) ∧
      sizeAt x.magnitude * den = num * 10 ^ place := by
  refine ⟨x.significand * 2 ^ x.scale.toNat * 10 ^ (-place).toNat,
    2 ^ (-x.scale).toNat * 10 ^ place.toNat, by positivity, rfl, ?_⟩
  rw [x.sizeAt_magnitude, zpow_eq_div two_ne_zero x.scale,
    zpow_eq_div (by norm_num : (10 : ℚ) ≠ 0) place]
  push_cast
  field_simp

/-- The first neighbour is the greatest multiple of `10 ^ place` up to the number. -/
theorem neighbours_bounds (x : Binary64) (place : ℤ) :
    ((x.neighbours place).1 : ℚ) * 10 ^ place ≤ sizeAt x.magnitude ∧
      sizeAt x.magnitude < ((x.neighbours place).1 + 1 : ℕ) * 10 ^ place := by
  obtain ⟨num, den, hden, hneighbours, hquotient⟩ := x.exists_neighbours_eq place
  have hden' : (0 : ℚ) < den := by exact_mod_cast hden
  have hunit : (0 : ℚ) < 10 ^ place := by positivity
  have hlow : ((num / den : ℕ) : ℚ) * den ≤ num := by exact_mod_cast Nat.div_mul_le_self num den
  have hhigh : (num : ℚ) < (num / den + 1 : ℕ) * den := by
    exact_mod_cast (Nat.div_lt_iff_lt_mul hden).mp (Nat.lt_succ_self (num / den))
  rw [hneighbours]
  constructor
  · refine le_of_mul_le_mul_right ?_ hden'
    rw [hquotient, mul_right_comm]
    exact mul_le_mul_of_nonneg_right hlow hunit.le
  · refine lt_of_mul_lt_mul_right ?_ hden'.le
    rw [hquotient, mul_right_comm]
    exact mul_lt_mul_of_pos_right hhigh hunit

theorem onGrid_iff (hx : 0 < x.magnitude) :
    x.OnGrid place ↔ x.readsBack ⟨(x.neighbours place).1, place⟩ = true ∨
      x.readsBack ⟨(x.neighbours place).1 + 1, place⟩ = true := by
  rw [readsBack_iff hx, readsBack_iff hx]
  constructor
  · rintro ⟨n, hn⟩
    obtain ⟨hlow, hhigh⟩ := x.neighbours_bounds place
    have hself := isNearest_sizeAt x.magnitude
    rcases Nat.lt_or_ge (x.neighbours place).1 n with h | h
    · have hle : (((x.neighbours place).1 + 1 : ℕ) : ℚ) * 10 ^ place ≤ n * 10 ^ place := by
        gcongr
        exact h
      exact .inr (hself.between hn hhigh.le hle)
    · have hle : (n : ℚ) * 10 ^ place ≤ (x.neighbours place).1 * 10 ^ place := by
        gcongr
      exact .inl (hn.between hself hle hlow)
  · rintro (h | h)
    · exact ⟨_, h⟩
    · exact ⟨_, h⟩

theorem nearestOnGrid?_eq_none_iff (hx : 0 < x.magnitude) :
    x.nearestOnGrid? tie place = none ↔ ¬x.OnGrid place := by
  rw [onGrid_iff hx]
  simp only [nearestOnGrid?]
  split
  · simp [*]
  · simp [*]
  · simp [*]
  · split <;> simp [*]

theorem eq_neighbour_of_nearestOnGrid? (h : x.nearestOnGrid? tie place = some d) :
    d = ⟨(x.neighbours place).1, place⟩ ∨ d = ⟨(x.neighbours place).1 + 1, place⟩ := by
  simp only [nearestOnGrid?] at h
  split at h
  · cases h
  · cases h
    exact .inl rfl
  · cases h
    exact .inr rfl
  · split at h <;> cases h
    · exact .inl rfl
    · exact .inr rfl
    · exact .inr rfl
    · split
      · exact .inl rfl
      · exact .inr rfl

end Grid

section Search

variable {x : Binary64} {tie : Tie} {d d' : Decimal}

/-- The search stops at the first grid that holds a decimal for the number, whichever way ties
go. -/
theorem shortestFrom_spec (hx : 0 < x.magnitude) {fuel steps : Nat} {start : ℤ}
    (hsteps : steps < fuel) (hgrid : x.OnGrid (start - steps)) :
    ∃ place, place ≤ start ∧ start - steps ≤ place ∧
      (∀ tie, x.nearestOnGrid? tie place = some (x.shortestFrom tie fuel start)) ∧
      ∀ coarser, place < coarser → coarser ≤ start → ¬x.OnGrid coarser := by
  induction fuel generalizing start steps with
  | zero => omega
  | succ fuel ih =>
      by_cases hstart : x.OnGrid start
      · refine ⟨start, le_rfl, by omega, fun tie => ?_, by omega⟩
        rw [shortestFrom]
        cases hfirst : x.nearestOnGrid? tie start with
        | some d => rfl
        | none => exact absurd hstart ((nearestOnGrid?_eq_none_iff hx).mp hfirst)
      · obtain ⟨steps, rfl⟩ : ∃ n, steps = n + 1 := by
          refine ⟨steps - 1, ?_⟩
          have hne : steps ≠ 0 := by
            rintro rfl
            exact hstart (by simpa using hgrid)
          omega
        have hrest : start - (steps + 1 : ℕ) = start - 1 - steps := by
          push_cast
          ring
        rw [hrest] at hgrid
        obtain ⟨place, hle, hge, hplace, hcoarser⟩ := ih (by omega) hgrid
        refine ⟨place, by omega, by omega, fun tie => ?_, fun coarser hlt hcoarse => ?_⟩
        · rw [hplace, shortestFrom, (nearestOnGrid?_eq_none_iff hx).mpr hstart, Option.getD_none]
        · rcases Int.lt_or_eq_of_le hcoarse with h | rfl
          · exact hcoarser coarser hlt (by omega)
          · exact hstart

/-- A grid holds a decimal for the number if its step is smaller than half a significand unit. -/
theorem onGrid_of_fine {place : ℤ} (hplace : (10 : ℚ) ^ place < 2 ^ (x.scale - 1)) :
    x.OnGrid place := by
  obtain ⟨hlow, hhigh⟩ := x.neighbours_bounds place
  have hmiddle : middle x.magnitude = sizeAt x.magnitude + 2 ^ (x.scale - 1) := by
    rw [middle_magnitude, sizeAt_magnitude, zpow_sub₀ two_ne_zero, zpow_sub_one₀ two_ne_zero]
    push_cast
    ring
  have hbelow : ((x.neighbours place).1 + 1 : ℕ) * 10 ^ place < middle x.magnitude := by
    rw [hmiddle]
    push_cast
    linarith
  have hnext : ∀ n, n + 1 = x.magnitude →
      middle n < ((x.neighbours place).1 + 1 : ℕ) * 10 ^ place := by
    intro n hn
    rw [← hn] at hhigh
    exact (middle_lt n).trans hhigh
  exact ⟨_, isNearest_of_between hbelow.le (fun n hn => (hnext n hn).le)
    fun _ => ⟨hbelow.ne, fun n hn => (hnext n hn).ne'⟩⟩

/-- A significand has at most sixteen digits, so the grid is fine enough after one place more. -/
theorem onGrid_of_many {x : Binary64} (hfinite : x.isFinite = true) (hx : 0 < x.magnitude) :
    x.OnGrid (x.decimalPoint - 1 - 17) := by
  obtain ⟨hpoint, -⟩ := decimalPoint_spec hfinite hx
  obtain ⟨k, -, hbits, -⟩ := x.exists_magnitude_eq
  have hsignificand : (x.significand : ℚ) < 2 ^ 53 := by exact_mod_cast hbits
  have hunit : (0 : ℚ) < 2 ^ (x.scale - 1) := by positivity
  have hdouble : (2 : ℚ) ^ x.scale = 2 * 2 ^ (x.scale - 1) := by
    rw [← zpow_one_add₀ two_ne_zero, add_sub_cancel]
  have hten : (10 : ℚ) ^ (x.decimalPoint - 1) = 10 ^ 17 * 10 ^ (x.decimalPoint - 1 - 17) :=
    ten_zpow_split (by omega)
  rw [x.sizeAt_magnitude, hdouble, hten] at hpoint
  have hbound := mul_lt_mul_of_pos_right hsignificand hunit
  exact onGrid_of_fine (by linarith)

/-- What a number is written with: a decimal on the coarsest grid that holds one. -/
theorem exists_place {x : Binary64} (hfinite : x.isFinite = true) (hx : 0 < x.magnitude) :
    ∃ place, place < x.decimalPoint ∧ x.decimalPoint - 18 ≤ place ∧
      (∀ tie, ∃ d, x.nearestOnGrid? tie place = some d ∧ x.shortest tie = d.strip fullDigits) ∧
      ∀ coarser, place < coarser → coarser < x.decimalPoint → ¬x.OnGrid coarser := by
  obtain ⟨place, hle, hge, hplace, hcoarser⟩ :=
    shortestFrom_spec hx (by decide : 17 < fullDigits) (onGrid_of_many hfinite hx)
  exact ⟨place, by omega, by push_cast at hge; omega, fun tie => ⟨_, hplace tie, rfl⟩,
    fun coarser hlt hpoint => hcoarser coarser hlt (by omega)⟩

/-- The digits found, before zeros at their end are taken away. -/
theorem digits_le {x : Binary64} (hfinite : x.isFinite = true) (hx : 0 < x.magnitude) {place : ℤ}
    (hplace : place < x.decimalPoint) (h : x.nearestOnGrid? tie place = some d) :
    d.exponent = place ∧ d.digits ≤ 10 ^ (x.decimalPoint - place).toNat := by
  obtain ⟨-, hpoint⟩ := decimalPoint_spec hfinite hx
  obtain ⟨hlow, -⟩ := x.neighbours_bounds place
  have hsplit : (10 : ℚ) ^ x.decimalPoint = 10 ^ (x.decimalPoint - place).toNat * 10 ^ place :=
    ten_zpow_split (by omega)
  have hlt : ((x.neighbours place).1 : ℚ) < 10 ^ (x.decimalPoint - place).toNat := by
    refine lt_of_mul_lt_mul_right (a := 10 ^ place) ?_ (by positivity)
    rw [← hsplit]
    exact hlow.trans_lt hpoint
  have hlt' : (x.neighbours place).1 < 10 ^ (x.decimalPoint - place).toNat := by
    exact_mod_cast hlt
  rcases eq_neighbour_of_nearestOnGrid? h with rfl | rfl
  · exact ⟨rfl, hlt'.le⟩
  · exact ⟨rfl, hlt'⟩

theorem isNearest_of_nearestOnGrid? {place : ℤ} (h : x.nearestOnGrid? tie place = some d) :
    IsNearest d.value x.magnitude :=
  isNearest_of_readsBack (readsBack_of_nearestOnGrid? h)

/-- A decimal for the number lies on the grid of its last digit and on all finer ones. -/
theorem IsNearest.onGrid (h : IsNearest d.value x.magnitude) {place : ℤ}
    (hplace : place ≤ d.exponent) : x.OnGrid place := by
  rw [d.value_finer hplace] at h
  exact ⟨_, h⟩

/-- A power of ten has a single digit before zeros are added. -/
theorem hasDigits_of_le {count : Nat} (hcount : 0 < count) (hdigits : d.digits ≤ 10 ^ count) :
    HasDigits count d.value := by
  rcases hdigits.lt_or_eq with h | h
  · exact ⟨d, h, abs_of_nonneg d.value_nonneg⟩
  · refine ⟨⟨1, d.exponent + count⟩, Nat.one_lt_pow hcount.ne' (by norm_num), ?_⟩
    rw [abs_of_nonneg d.value_nonneg, Decimal.value, Decimal.value, h, zpow_add₀ (by norm_num),
      zpow_natCast]
    push_cast
    ring

/-- No decimal with fewer digits than the ones found reads back as the number. -/
theorem shortest_fewest {x : Binary64} (hfinite : x.isFinite = true) (hx : 0 < x.magnitude)
    (tie : Tie) {count : Nat} (hdigits : d'.digits < 10 ^ count)
    (hnearest : IsNearest d'.value x.magnitude) : HasDigits count (x.shortest tie).value := by
  obtain ⟨place, hplace, -, hfind, hcoarser⟩ := exists_place hfinite hx
  obtain ⟨d, hgrid, hshortest⟩ := hfind tie
  obtain ⟨hexponent, hlength⟩ := digits_le hfinite hx hplace hgrid
  have hfound := isNearest_of_nearestOnGrid? hgrid
  obtain ⟨n, rfl⟩ : ∃ n, count = n + 1 := by
    refine ⟨count - 1, ?_⟩
    have := Decimal.digits_pos_of_value_pos (hnearest.pos hx)
    rcases Nat.eq_zero_or_pos count with rfl | h <;> omega
  rw [hshortest, Decimal.strip_value]
  by_cases hfirst : place + 1 < x.decimalPoint
  · have hfine : d'.exponent ≤ place := by
      by_contra hcoarse
      exact hcoarser (place + 1) (by omega) hfirst (hnearest.onGrid (by omega))
    by_cases hfew : d.digits < 10 ^ (n + 1)
    · exact ⟨d, hfew, abs_of_nonneg d.value_nonneg⟩
    · -- A power of ten between the two decimals lies on the grid before.
      have hpower : IsNearest (⟨10 ^ (n + 1), place⟩ : Decimal).value x.magnitude :=
        hnearest.between hfound (Decimal.value_le_value hdigits.le hfine)
          (Decimal.value_le_value (not_lt.mp hfew) hexponent.ge)
      have hshift : (⟨10 ^ (n + 1), place⟩ : Decimal).value =
          (⟨10 ^ n, place + 1⟩ : Decimal).value := by
        rw [Decimal.value, Decimal.value, zpow_add_one₀ (by norm_num), pow_succ]
        push_cast
        ring
      rw [hshift] at hpower
      exact absurd (hpower.onGrid le_rfl) (hcoarser (place + 1) (by omega) hfirst)
  · rw [show (x.decimalPoint - place).toNat = 1 by omega] at hlength
    exact (hasDigits_of_le one_pos hlength).mono (by omega)

/-- The last digit that is written is not zero. -/
theorem shortest_last_digit {x : Binary64} (hfinite : x.isFinite = true) (hx : 0 < x.magnitude)
    (tie : Tie) : (x.shortest tie).digits % 10 ≠ 0 := by
  obtain ⟨place, hplace, hclose, hfind, -⟩ := exists_place hfinite hx
  obtain ⟨d, hgrid, hshortest⟩ := hfind tie
  obtain ⟨-, hlength⟩ := digits_le hfinite hx hplace hgrid
  have hpos := Decimal.digits_pos_of_value_pos ((isNearest_of_nearestOnGrid? hgrid).pos hx)
  have hfuel : (x.decimalPoint - place).toNat < fullDigits := by
    rw [fullDigits]
    omega
  rw [hshortest]
  exact Decimal.strip_digits hpos (hlength.trans_lt (Nat.pow_lt_pow_right (by norm_num) hfuel))

end Search

end Binary64

end ControlPanel
