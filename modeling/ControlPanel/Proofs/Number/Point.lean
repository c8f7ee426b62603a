import ControlPanel.Proofs.Number.Shortest

namespace ControlPanel.Binary64

theorem zpow_le_zpow_of_log {a b : Nat} {m n : ℤ} (ha : 0 < a) (hb : 0 < b)
    (h : m * Real.log a ≤ n * Real.log b) : (a : ℚ) ^ m ≤ (b : ℚ) ^ n := by
  have ha' : (0 : ℝ) < a := by exact_mod_cast ha
  have hb' : (0 : ℝ) < b := by exact_mod_cast hb
  rw [← Real.log_zpow, ← Real.log_zpow, Real.log_le_log_iff (by positivity) (by positivity)] at h
  rw [← Rat.cast_le (K := ℝ)]
  simpa only [Rat.cast_zpow, Rat.cast_natCast] using h

/-- Where `2 ^ n` and `10 ^ k` almost agree, the quotient `k / n` turns exponents of two into
exponents of ten, with an error of one. -/
theorem ten_zpow_estimate {n k : Nat} (hn : 0 < n) (hlow : 2 ^ n ≤ 10 ^ k)
    (hhigh : 10 ^ k ≤ 2 ^ (n + 1)) {e : ℤ} (he : |e| ≤ n) :
    (10 : ℚ) ^ (e * k / n - 1) ≤ 2 ^ e ∧ (2 : ℚ) ^ (e + 1) ≤ 10 ^ (e * k / n + 2) := by
  have hpos : (0 : ℤ) < n := by exact_mod_cast hn
  obtain ⟨q, hq⟩ : ∃ q, q = e * k / n := ⟨_, rfl⟩
  have hqlow : (q : ℝ) * n ≤ e * k := by
    have : q * n ≤ e * k := by
      rw [hq]
      exact Int.ediv_mul_le _ hpos.ne'
    exact_mod_cast this
  have hqhigh : (e : ℝ) * k ≤ (q + 1) * n := by
    have : e * k < (q + 1) * n := by
      rw [hq]
      exact Int.lt_ediv_add_one_mul_self _ hpos
    exact_mod_cast this.le
  have hlow' : n * Real.log (2 : ℕ) ≤ k * Real.log (10 : ℕ) := by
    rw [← Real.log_pow, ← Real.log_pow]
    exact Real.log_le_log (by positivity) (by exact_mod_cast hlow)
  have hhigh' : k * Real.log (10 : ℕ) ≤ (n + 1 : ℕ) * Real.log (2 : ℕ) := by
    rw [← Real.log_pow, ← Real.log_pow]
    exact Real.log_le_log (by positivity) (by exact_mod_cast hhigh)
  have htwo : 0 ≤ Real.log (2 : ℕ) := Real.log_natCast_nonneg 2
  have hten : (2 : ℕ) * Real.log (2 : ℕ) ≤ Real.log (10 : ℕ) := by
    rw [← Real.log_pow]
    exact Real.log_le_log (by norm_num) (by norm_num)
  have he' := abs_le.mp (by exact_mod_cast he : |(e : ℝ)| ≤ n)
  have hn' : (0 : ℝ) < n := by exact_mod_cast hn
  rw [← hq]
  refine ⟨zpow_le_zpow_of_log (a := 10) (b := 2) (by norm_num) (by norm_num) ?_,
    zpow_le_zpow_of_log (a := 2) (b := 10) (by norm_num) (by norm_num) ?_⟩
  · generalize Real.log (2 : ℕ) = a at *
    generalize Real.log (10 : ℕ) = b at *
    push_cast at *
    refine le_of_mul_le_mul_right ?_ hn'
    have hq : q * n * b ≤ e * k * b := mul_le_mul_of_nonneg_right hqlow (by linarith)
    rcases le_total 0 (e : ℝ) with hsign | hsign
    · nlinarith [mul_le_mul_of_nonneg_left hhigh' hsign]
    · nlinarith [mul_le_mul_of_nonpos_left hlow' hsign]
  · generalize Real.log (2 : ℕ) = a at *
    generalize Real.log (10 : ℕ) = b at *
    push_cast at *
    refine le_of_mul_le_mul_right ?_ hn'
    have hq : e * k * b ≤ (q + 1) * n * b := mul_le_mul_of_nonneg_right hqhigh (by linarith)
    rcases le_total 0 (e : ℝ) with hsign | hsign
    · nlinarith [mul_le_mul_of_nonneg_left hlow' hsign]
    · nlinarith [mul_le_mul_of_nonpos_left hhigh' hsign]

theorem sizeAt_bounds {x : Binary64} (hfinite : x.isFinite = true) (hx : 0 < x.magnitude) :
    (2 : ℚ) ^ (-1074 : ℤ) ≤ sizeAt x.magnitude ∧ sizeAt x.magnitude < 2 ^ (1024 : ℤ) := by
  rw [isFinite, decide_eq_true_eq] at hfinite
  constructor
  · have hone : sizeAt 1 = 2 ^ (-1074 : ℤ) := by
      simp [sizeAt, units]
    rw [← hone]
    exact sizeAt_strictMono.monotone hx
  · rw [← sizeAt_infiniteMagnitude]
    exact sizeAt_strictMono hfinite

/-- The bits of a significand give the size up to a factor of two. -/
theorem log2_significand {x : Binary64} (hx : 0 < x.magnitude) :
    (2 : ℚ) ^ ((x.significand.log2 : ℤ) + x.scale) ≤ sizeAt x.magnitude ∧
      sizeAt x.magnitude < 2 ^ ((x.significand.log2 : ℤ) + x.scale + 1) := by
  have hne : x.significand ≠ 0 := by
    intro h
    have hsize := x.sizeAt_magnitude
    rw [h, Nat.cast_zero, zero_mul, ← sizeAt_zero] at hsize
    exact hx.ne' (sizeAt_strictMono.injective hsize)
  have hlow : (2 : ℚ) ^ (x.significand.log2 : ℤ) ≤ x.significand := by
    exact_mod_cast Nat.log2_self_le hne
  have hhigh : (x.significand : ℚ) < 2 ^ ((x.significand.log2 : ℤ) + 1) := by
    exact_mod_cast Nat.lt_log2_self (n := x.significand)
  rw [x.sizeAt_magnitude, add_right_comm, zpow_add₀ (by norm_num),
    zpow_add₀ (by norm_num) _ x.scale]
  exact ⟨by gcongr, by gcongr⟩

/-- The decimal point of a number stands right behind its first digit's place. -/
theorem decimalPoint_spec {x : Binary64} (hfinite : x.isFinite = true) (hx : 0 < x.magnitude) :
    (10 : ℚ) ^ (x.decimalPoint - 1) ≤ sizeAt x.magnitude ∧
      sizeAt x.magnitude < 10 ^ x.decimalPoint := by
  obtain ⟨hleast, hgreatest⟩ := sizeAt_bounds hfinite hx
  obtain ⟨hlow, hhigh⟩ := log2_significand hx
  have habove : ∀ k : ℤ, ((⟨1, k⟩ : Decimal).compareScaled x.significand x.scale == .gt) = true ↔
      sizeAt x.magnitude < 10 ^ k := by
    intro k
    rw [Decimal.compareScaled_eq, beq_iff_eq, compare_gt_iff_gt, ← x.sizeAt_magnitude,
      Decimal.value, Nat.cast_one, one_mul]
  simp only [decimalPoint, habove]
  obtain ⟨e, he⟩ : ∃ e, e = (x.significand.log2 : ℤ) + x.scale := ⟨_, rfl⟩
  rw [← he] at hlow hhigh ⊢
  have hrange : |e| ≤ (100000 : ℕ) := by
    have h₁ := (zpow_lt_zpow_iff_right₀ (by norm_num : (1 : ℚ) < 2)).mp (hlow.trans_lt hgreatest)
    have h₂ := (zpow_lt_zpow_iff_right₀ (by norm_num : (1 : ℚ) < 2)).mp (hleast.trans_lt hhigh)
    rw [abs_le]
    omega
  obtain ⟨hten, htwo⟩ := ten_zpow_estimate (n := 100000) (k := 30103) (by norm_num)
    (by decide +kernel) (by decide +kernel) hrange
  push_cast at hten htwo
  split_ifs with hfirst hsecond
  · exact ⟨hten.trans hlow, hfirst⟩
  · rw [add_sub_cancel_right]
    exact ⟨not_lt.mp hfirst, hsecond⟩
  · rw [show e * 30103 / 100000 + 2 - 1 = e * 30103 / 100000 + 1 by omega]
    exact ⟨not_lt.mp hsecond, hhigh.trans_le htwo⟩

end ControlPanel.Binary64
