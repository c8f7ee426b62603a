import ControlPanel.Number.Shortest
import ControlPanel.Proofs.Number.Nearest

namespace ControlPanel

/-- The rational number that a decimal stands for. -/
def Decimal.value (d : Decimal) : ℚ :=
  d.digits * 10 ^ d.exponent

theorem Decimal.compareScaled_eq (d : Decimal) (m : Nat) (scale : ℤ) :
    d.compareScaled m scale = compare d.value (m * 2 ^ scale) := by
  obtain ⟨factor, hfactor, hpos⟩ : ∃ factor : ℚ,
      factor = 10 ^ (-d.exponent).toNat * 2 ^ (-scale).toNat ∧ 0 < factor :=
    ⟨_, rfl, by positivity⟩
  have hten : (10 : ℚ) ^ d.exponent * 10 ^ (-d.exponent).toNat = 10 ^ d.exponent.toNat := by
    rw [Binary64.zpow_eq_div (by norm_num), div_mul_cancel₀ _ (by positivity)]
  have htwo : (2 : ℚ) ^ scale * 2 ^ (-scale).toNat = 2 ^ scale.toNat := by
    rw [Binary64.zpow_eq_div (by norm_num), div_mul_cancel₀ _ (by positivity)]
  have hleft : ((d.digits * 10 ^ d.exponent.toNat * 2 ^ (-scale).toNat : ℕ) : ℚ) =
      d.value * factor := by
    rw [hfactor, Decimal.value]
    push_cast
    rw [← hten]
    ring
  have hright : ((m * 2 ^ scale.toNat * 10 ^ (-d.exponent).toNat : ℕ) : ℚ) =
      m * 2 ^ scale * factor := by
    rw [hfactor]
    push_cast
    rw [← htwo]
    ring
  simp only [Decimal.compareScaled, Nat.pow_eq]
  generalize d.digits * 10 ^ d.exponent.toNat * 2 ^ (-scale).toNat = a at hleft ⊢
  generalize m * 2 ^ scale.toNat * 10 ^ (-d.exponent).toNat = b at hright ⊢
  rcases lt_trichotomy a b with h | h | h
  · have hlt : d.value < m * 2 ^ scale := by
      refine lt_of_mul_lt_mul_right ?_ hpos.le
      rw [← hleft, ← hright]
      exact_mod_cast h
    rw [compare_lt_iff_lt.mpr h, compare_lt_iff_lt.mpr hlt]
  · have heq : d.value = m * 2 ^ scale := by
      refine mul_right_cancel₀ hpos.ne' ?_
      rw [← hleft, ← hright, h]
    rw [compare_eq_iff_eq.mpr h, compare_eq_iff_eq.mpr heq]
  · have hgt : m * 2 ^ scale < d.value := by
      refine lt_of_mul_lt_mul_right ?_ hpos.le
      rw [← hleft, ← hright]
      exact_mod_cast h
    rw [compare_gt_iff_gt.mpr h, compare_gt_iff_gt.mpr hgt]

theorem Decimal.strip_value (fuel : Nat) (d : Decimal) : (d.strip fuel).value = d.value := by
  induction fuel generalizing d with
  | zero => rfl
  | succ fuel ih =>
      rw [Decimal.strip]
      split_ifs with h
      · rw [ih]
        have hdigits : d.digits = d.digits / 10 * 10 := by omega
        have hcast : (d.digits : ℚ) = (d.digits / 10 : ℕ) * 10 := by exact_mod_cast hdigits
        simp only [Decimal.value]
        rw [hcast, zpow_add_one₀ (by norm_num)]
        ring
      · rfl

namespace Binary64

theorem exists_magnitude_eq (x : Binary64) :
    ∃ k : Nat, x.magnitude = k * 2 ^ 52 + x.significand ∧ x.significand < 2 ^ 53 ∧
      (k = 0 ∨ 2 ^ 52 ≤ x.significand) ∧ x.scale = (k : ℤ) - 1074 ∧
      x.isNarrowBelow = (decide (0 < k) && decide (x.significand = 2 ^ 52)) := by
  have hpow : Nat.pow 2 52 = 2 ^ 52 := rfl
  have hfraction : x.fraction < 2 ^ 52 := Nat.mod_lt _ (by norm_num)
  have hsplit : x.exponentField * 2 ^ 52 + x.fraction = x.magnitude :=
    Nat.div_add_mod' x.magnitude (2 ^ 52)
  rw [isNarrowBelow, significand, scale, hpow]
  by_cases hzero : x.exponentField = 0
  · rw [if_pos hzero, if_pos hzero]
    refine ⟨0, by omega, by omega, .inl rfl, by omega, ?_⟩
    simp [hzero]
  · rw [if_neg hzero, if_neg hzero]
    refine ⟨x.exponentField - 1, by omega, by omega, by omega, by omega, ?_⟩
    rw [Bool.eq_iff_iff]
    simp only [Bool.and_eq_true, beq_iff_eq, decide_eq_true_eq]
    omega

theorem sizeAt_magnitude (x : Binary64) :
    sizeAt x.magnitude = x.significand * 2 ^ x.scale := by
  obtain ⟨k, hmagnitude, hlt, hk, hscale, -⟩ := x.exists_magnitude_eq
  rw [hmagnitude, sizeAt_binade (by omega) hk, hscale]

theorem middle_magnitude (x : Binary64) :
    middle x.magnitude = (4 * x.significand + 2 : ℕ) * 2 ^ (x.scale - 2) := by
  obtain ⟨k, hmagnitude, hlt, hk, hscale, -⟩ := x.exists_magnitude_eq
  rw [middle, hmagnitude, sizeAt_binade (by omega) hk, Nat.add_assoc,
    sizeAt_binade (by omega) (by omega), ← hscale, zpow_sub₀ (by norm_num)]
  push_cast
  ring

theorem middle_below (x : Binary64) {n : Nat} (hn : n + 1 = x.magnitude) :
    middle n = (if x.isNarrowBelow then 4 * x.significand - 1 else 4 * x.significand - 2 : ℕ) *
      2 ^ (x.scale - 2) := by
  obtain ⟨k, hmagnitude, hlt, hk, hscale, hnarrow⟩ := x.exists_magnitude_eq
  have hsize := x.sizeAt_magnitude
  rw [middle, hn, hsize, zpow_sub₀ (by norm_num)]
  by_cases hedge : 0 < k ∧ x.significand = 2 ^ 52
  · have hpred : n = (k - 1) * 2 ^ 52 + (2 ^ 53 - 1) := by omega
    have hhalf : (2 : ℚ) ^ (((k - 1 : ℕ) : ℤ) - 1074) = 2 ^ x.scale / 2 := by
      rw [hscale, div_eq_mul_inv, ← zpow_sub_one₀ (by norm_num)]
      congr 1
      omega
    rw [hnarrow, if_pos (by simp [hedge]), hpred, sizeAt_binade (by omega) (by omega), hhalf,
      hedge.2]
    push_cast
    ring
  · have hpred : n = k * 2 ^ 52 + (x.significand - 1) := by omega
    have hnot : x.isNarrowBelow = false := by
      rw [hnarrow, Bool.eq_false_iff]
      simpa using hedge
    have hpos : 1 ≤ x.significand := by omega
    have hbits : k = 0 ∨ 2 ^ 52 ≤ x.significand - 1 := by omega
    rw [hnot, if_neg (by simp), hpred, sizeAt_binade (by omega) hbits, ← hscale,
      Nat.cast_sub hpos, Nat.cast_sub (by omega)]
    push_cast
    ring

theorem isNearest_of_readsBack {x : Binary64} {d : Decimal} (h : x.readsBack d = true) :
    IsNearest d.value x.magnitude := by
  obtain ⟨k, hmagnitude, -⟩ := x.exists_magnitude_eq
  have hparity : x.magnitude % 2 = x.significand % 2 := by omega
  simp only [readsBack, Decimal.compareScaled_eq, Bool.and_eq_true, Bool.or_eq_true, beq_iff_eq,
    compare_gt_iff_gt, compare_lt_iff_lt, compare_eq_iff_eq, ← middle_magnitude] at h
  obtain ⟨hlow, hhigh⟩ := h
  apply isNearest_of_between
  · rcases hhigh with h | h
    · exact h.le
    · exact h.2.le
  · intro n hn
    rw [x.middle_below hn]
    rcases hlow with h | h
    · exact h.le
    · exact h.2.ge
  · intro hodd
    rw [hparity] at hodd
    refine ⟨?_, ?_⟩
    · rcases hhigh with h | h
      · exact h.ne
      · omega
    · intro n hn
      rw [x.middle_below hn]
      rcases hlow with h | h
      · exact h.ne'
      · omega

theorem exactDecimal_value (x : Binary64) : x.exactDecimal.value = sizeAt x.magnitude := by
  have hscale : (2 : ℚ) ^ x.scale.toNat * 5 ^ (-x.scale).toNat * 10 ^ min x.scale 0 =
      2 ^ x.scale := by
    rcases le_total 0 x.scale with h | h
    · rw [min_eq_right h, show (-x.scale).toNat = 0 by omega, pow_zero, zpow_zero, mul_one, mul_one,
        ← zpow_natCast, Int.toNat_of_nonneg h]
    · rw [min_eq_left h, show x.scale.toNat = 0 by omega, pow_zero, one_mul, ← zpow_natCast,
        Int.toNat_of_nonneg (by omega), show (10 : ℚ) = 5 * 2 by norm_num, mul_zpow, ← mul_assoc,
        ← zpow_add₀ (by norm_num), neg_add_cancel, zpow_zero, one_mul]
  rw [sizeAt_magnitude, ← hscale]
  simp only [Decimal.value, exactDecimal, Nat.pow_eq]
  push_cast
  ring

theorem readsBack_of_nearestOnGrid? {x : Binary64} {tie : Tie} {place : ℤ} {d : Decimal}
    (h : x.nearestOnGrid? tie place = some d) : x.readsBack d = true := by
  simp only [nearestOnGrid?] at h
  split at h
  · cases h
  · cases h
    assumption
  · cases h
    assumption
  · split at h <;> cases h
    · assumption
    · assumption
    · assumption
    · split <;> assumption

/-- The digits of a number read back as it. -/
theorem isNearest_shortest (x : Binary64) (tie : Tie) :
    IsNearest (x.shortest tie).value x.magnitude := by
  have hfrom : ∀ fuel place, IsNearest (x.shortestFrom tie fuel place).value x.magnitude := by
    intro fuel
    induction fuel with
    | zero =>
        intro place
        rw [shortestFrom, exactDecimal_value]
        exact isNearest_sizeAt x.magnitude
    | succ fuel ih =>
        intro place
        rw [shortestFrom]
        cases hgrid : x.nearestOnGrid? tie place with
        | none => exact ih (place - 1)
        | some d => exact isNearest_of_readsBack (readsBack_of_nearestOnGrid? hgrid)
  rw [shortest, Decimal.strip_value]
  exact hfrom _ _

end Binary64

end ControlPanel
