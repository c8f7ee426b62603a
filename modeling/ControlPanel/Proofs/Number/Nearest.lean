import ControlPanel.Proofs.Number.Size

namespace ControlPanel.Binary64

theorem roundHalfEven_near (num : Nat) {den : Nat} (hden : 0 < den) :
    2 * num ≤ 2 * (roundHalfEven num den * den) + den ∧
      2 * (roundHalfEven num den * den) ≤ 2 * num + den := by
  have hsplit := Nat.div_add_mod' num den
  have hlt := Nat.mod_lt num hden
  simp only [roundHalfEven]
  generalize num / den = q at hsplit ⊢
  generalize num % den = r at hsplit hlt ⊢
  have hsucc : (q + 1) * den = q * den + den := Nat.succ_mul q den
  split_ifs <;> constructor <;> omega

theorem roundHalfEven_odd {num den : Nat} (hden : 0 < den)
    (hodd : roundHalfEven num den % 2 = 1) :
    2 * num ≠ 2 * (roundHalfEven num den * den) + den ∧
      2 * (roundHalfEven num den * den) ≠ 2 * num + den := by
  have hsplit := Nat.div_add_mod' num den
  have hlt := Nat.mod_lt num hden
  simp only [roundHalfEven] at hodd ⊢
  generalize num / den = q at hsplit hodd ⊢
  generalize num % den = r at hsplit hlt hodd ⊢
  have hsucc : (q + 1) * den = q * den + den := Nat.succ_mul q den
  split_ifs at hodd ⊢ <;> constructor <;> omega

theorem roundHalfEven_cast (num : Nat) {den : Nat} (hden : 0 < den) :
    (num : ℚ) / den ≤ roundHalfEven num den + 1 / 2 ∧
      (roundHalfEven num den : ℚ) - 1 / 2 ≤ num / den ∧
      (roundHalfEven num den % 2 = 1 →
        (num : ℚ) / den ≠ roundHalfEven num den + 1 / 2 ∧
          (num : ℚ) / den ≠ roundHalfEven num den - 1 / 2) := by
  have hpos : (0 : ℚ) < den := by exact_mod_cast hden
  obtain ⟨hupper, hlower⟩ := roundHalfEven_near num hden
  have hupper' : (2 * num : ℚ) ≤ 2 * (roundHalfEven num den * den) + den := by
    exact_mod_cast hupper
  have hlower' : (2 * (roundHalfEven num den * den) : ℚ) ≤ 2 * num + den := by
    exact_mod_cast hlower
  refine ⟨?_, ?_, fun hodd => ⟨?_, ?_⟩⟩
  · rw [div_le_iff₀ hpos]
    linarith
  · rw [le_div_iff₀ hpos]
    linarith
  · intro heq
    rw [div_eq_iff hpos.ne'] at heq
    apply (roundHalfEven_odd hden hodd).1
    have : (2 * num : ℚ) = 2 * (roundHalfEven num den * den) + den := by linarith
    exact_mod_cast this
  · intro heq
    rw [div_eq_iff hpos.ne'] at heq
    apply (roundHalfEven_odd hden hodd).2
    have : (2 * (roundHalfEven num den * den) : ℚ) = 2 * num + den := by linarith
    exact_mod_cast this

theorem log2_quotient {num den : Nat} (hnum : num ≠ 0) (hden : den ≠ 0) :
    (2 : ℚ) ^ ((num.log2 : ℤ) - den.log2 - 1) ≤ (num : ℚ) / den ∧
      (num : ℚ) / den < (2 : ℚ) ^ ((num.log2 : ℤ) - den.log2 + 1) := by
  have hpos : (0 : ℚ) < den := by exact_mod_cast Nat.pos_of_ne_zero hden
  have hnumLow : (2 : ℚ) ^ (num.log2 : ℤ) ≤ num := by
    exact_mod_cast Nat.log2_self_le hnum
  have hnumHigh : (num : ℚ) < 2 ^ ((num.log2 : ℤ) + 1) := by
    exact_mod_cast Nat.lt_log2_self (n := num)
  have hdenLow : (2 : ℚ) ^ (den.log2 : ℤ) ≤ den := by
    exact_mod_cast Nat.log2_self_le hden
  have hdenHigh : (den : ℚ) < 2 ^ ((den.log2 : ℤ) + 1) := by
    exact_mod_cast Nat.lt_log2_self (n := den)
  constructor
  · rw [le_div_iff₀ hpos]
    calc (2 : ℚ) ^ ((num.log2 : ℤ) - den.log2 - 1) * den
        ≤ 2 ^ ((num.log2 : ℤ) - den.log2 - 1) * 2 ^ ((den.log2 : ℤ) + 1) := by gcongr
      _ = 2 ^ (num.log2 : ℤ) := by
          rw [← zpow_add₀ (by norm_num)]
          congr 1
          ring
      _ ≤ num := hnumLow
  · rw [div_lt_iff₀ hpos]
    calc (num : ℚ) < 2 ^ ((num.log2 : ℤ) + 1) := hnumHigh
      _ = 2 ^ ((num.log2 : ℤ) - den.log2 + 1) * 2 ^ (den.log2 : ℤ) := by
          rw [← zpow_add₀ (by norm_num)]
          congr 1
          ring
      _ ≤ 2 ^ ((num.log2 : ℤ) - den.log2 + 1) * den := by gcongr

theorem zpow_eq_div {b : ℚ} (hb : b ≠ 0) (e : ℤ) : b ^ e = b ^ e.toNat / b ^ (-e).toNat := by
  rw [eq_div_iff (pow_ne_zero _ hb), ← zpow_natCast, ← zpow_natCast, ← zpow_add₀ hb]
  congr 1
  omega

/-- The scale of a quotient gives it at most 53 bits before the point, and exactly so many unless
it is the least scale. -/
theorem scaleOfQuotient_spec {num den : Nat} (hnum : num ≠ 0) (hden : den ≠ 0) :
    -1074 ≤ scaleOfQuotient num den ∧
      (num : ℚ) / den < 2 ^ (scaleOfQuotient num den + 53) ∧
      (scaleOfQuotient num den = -1074 ∨
        (2 : ℚ) ^ (scaleOfQuotient num den + 52) ≤ (num : ℚ) / den) := by
  obtain ⟨hlow, hhigh⟩ := log2_quotient hnum hden
  have hpos : (0 : ℚ) < den := by exact_mod_cast Nat.pos_of_ne_zero hden
  simp only [scaleOfQuotient, Nat.pow_eq]
  generalize (num.log2 : ℤ) - den.log2 = top at hlow hhigh ⊢
  have hcompare : num * 2 ^ (-top).toNat < den * 2 ^ top.toNat ↔ (num : ℚ) / den < 2 ^ top := by
    rw [zpow_eq_div two_ne_zero top, div_lt_div_iff₀ hpos (by positivity),
      mul_comm ((2 : ℚ) ^ top.toNat)]
    norm_cast
  have hbits : ∀ t : ℤ, (2 : ℚ) ^ t ≤ num / den → (num : ℚ) / den < 2 ^ (t + 1) →
      -1074 ≤ max (-1074) (t - 52) ∧ (num : ℚ) / den < 2 ^ (max (-1074) (t - 52) + 53) ∧
        (max (-1074) (t - 52) = -1074 ∨ (2 : ℚ) ^ (max (-1074) (t - 52) + 52) ≤ num / den) := by
    intro t htlow hthigh
    refine ⟨le_max_left _ _, hthigh.trans_le ?_, ?_⟩
    · exact zpow_le_zpow_right₀ (by norm_num) (by omega)
    · rcases le_total (t - 52) (-1074) with hle | hle
      · exact .inl (max_eq_left hle)
      · right
        rw [max_eq_right hle, sub_add_cancel]
        exact htlow
  by_cases hbelow : num * 2 ^ (-top).toNat < den * 2 ^ top.toNat
  · rw [if_pos hbelow]
    apply hbits (top - 1) hlow
    rw [sub_add_cancel]
    exact hcompare.mp hbelow
  · rw [if_neg hbelow]
    exact hbits top (not_lt.mp fun h => hbelow (hcompare.mpr h)) hhigh

/-- A value with at most 53 bits before the point is rounded to a number of as many bits, or to the
least one that has a bit more. -/
theorem bits_of_rounded {u : ℚ} {k m : Nat} (hrange : u < 2 ^ 53) (hbits : k = 0 ∨ 2 ^ 52 ≤ u)
    (hhigh : u ≤ m + 1 / 2) (hlow : m - 1 / 2 ≤ u) : m ≤ 2 ^ 53 ∧ (k = 0 ∨ 2 ^ 52 ≤ m) := by
  have hupper : (m : ℚ) < 2 ^ 53 + 1 := by linarith
  have hupper' : m < 2 ^ 53 + 1 := by exact_mod_cast hupper
  refine ⟨by omega, hbits.imp_right fun hge => ?_⟩
  have hlower : (2 : ℚ) ^ 52 < m + 1 := by linarith
  have hlower' : 2 ^ 52 < m + 1 := by exact_mod_cast hlower
  omega

/-- The middle below a size is half a unit away, or nearer if the significand is the least one of
its binade. -/
theorem middle_pred_cases {k m n : Nat} (hn : n + 1 = k * 2 ^ 52 + m) (hm : m ≤ 2 ^ 53)
    (hk : k = 0 ∨ 2 ^ 52 ≤ m) :
    middle n = (m - 1 / 2) * 2 ^ ((k : ℤ) - 1074) ∨
      0 < k ∧ m = 2 ^ 52 ∧ middle n < 2 ^ 52 * 2 ^ ((k : ℤ) - 1074) := by
  by_cases hedge : 0 < k ∧ m = 2 ^ 52
  · have hlt := middle_lt n
    rw [hn, sizeAt_binade hm hk, hedge.2, Nat.cast_pow, Nat.cast_ofNat] at hlt
    exact .inr ⟨hedge.1, hedge.2, hlt⟩
  · exact .inl (middle_pred hn hm (by omega))

/-- Rounding a value in units of `2 ^ (k - 1074)` gives the nearest magnitude, provided that the
value has the bits of a significand before the point. -/
theorem isNearest_of_rounded {v t : ℚ} {k m : Nat} (ht : t = 2 ^ ((k : ℤ) - 1074))
    (hrange : v < t * 2 ^ 53) (hbits : k = 0 ∨ t * 2 ^ 52 ≤ v)
    (hhigh : v / t ≤ m + 1 / 2) (hlow : m - 1 / 2 ≤ v / t)
    (hodd : m % 2 = 1 → v / t ≠ m + 1 / 2 ∧ v / t ≠ m - 1 / 2) :
    IsNearest v (k * 2 ^ 52 + m) := by
  have hunit : 0 < t := by
    rw [ht]
    positivity
  obtain ⟨hmTop, hmBits⟩ := bits_of_rounded ((div_lt_iff₀' hunit).mpr hrange)
    (hbits.imp_right (le_div_iff₀' hunit).mpr) hhigh hlow
  have hmiddle : (m + 1 / 2) * t ≤ middle (k * 2 ^ 52 + m) := by
    rw [ht]
    exact le_middle_binade hmTop hmBits
  -- With the least significand of a binade the value is no smaller than the number itself.
  have hbelow : ∀ n, n + 1 = k * 2 ^ 52 + m →
      middle n = (m - 1 / 2) * t ∨ m = 2 ^ 52 ∧ middle n ≤ v := by
    intro n hn
    rw [ht] at hbits ⊢
    refine (middle_pred_cases hn hmTop hmBits).imp_right fun ⟨hk, hedge, hlt⟩ => ⟨hedge, ?_⟩
    exact hlt.le.trans ((mul_comm _ _).trans_le (hbits.resolve_left hk.ne'))
  rw [div_le_iff₀ hunit] at hhigh
  rw [le_div_iff₀ hunit] at hlow
  rw [ne_eq, ne_eq, div_eq_iff hunit.ne', div_eq_iff hunit.ne'] at hodd
  apply isNearest_of_between (hhigh.trans hmiddle)
  · intro n hn
    rcases hbelow n hn with h | ⟨-, h⟩
    · exact h.trans_le hlow
    · exact h
  · intro hone
    obtain ⟨hneHigh, hneLow⟩ := hodd (by omega)
    refine ⟨((lt_of_le_of_ne hhigh hneHigh).trans_le hmiddle).ne, fun n hn => ?_⟩
    rcases hbelow n hn with h | ⟨hedge, -⟩
    · rw [h]
      exact hneLow
    · omega

/-- Without the cut at infinity, `nearestMagnitude` gives the nearest magnitude of all. -/
theorem exists_isNearest_nearestMagnitude {num den : Nat} (hnum : num ≠ 0) (hden : den ≠ 0) :
    ∃ magnitude, IsNearest ((num : ℚ) / den) magnitude ∧
      nearestMagnitude num den = min magnitude infiniteMagnitude := by
  obtain ⟨hleast, hrange, hbits⟩ := scaleOfQuotient_spec hnum hden
  simp only [nearestMagnitude, Nat.pow_eq]
  generalize scaleOfQuotient num den = q at hleast hrange hbits ⊢
  refine ⟨_, ?_, rfl⟩
  have hdenPos : 0 < den * 2 ^ q.toNat := by positivity
  have hk : (((q + 1074).toNat : ℕ) : ℤ) - 1074 = q := by omega
  have hscaled : ((num * 2 ^ (-q).toNat : ℕ) : ℚ) / (den * 2 ^ q.toNat : ℕ) =
      (num : ℚ) / den / 2 ^ q := by
    rw [zpow_eq_div two_ne_zero q]
    push_cast
    field_simp
  obtain ⟨hhigh, hlow, hodd⟩ := roundHalfEven_cast (num * 2 ^ (-q).toNat) hdenPos
  rw [hscaled] at hhigh hlow hodd
  rw [zpow_add₀ (by norm_num)] at hrange hbits
  exact isNearest_of_rounded (by rw [hk]) hrange (hbits.imp_left fun h => by omega) hhigh hlow hodd

theorem sizeAt_two_zpow (k : Nat) : sizeAt (k * 2 ^ 52 + 2 ^ 52) = 2 ^ ((k : ℤ) - 1022) := by
  rw [sizeAt_binade (by omega) (by omega), Nat.cast_pow, Nat.cast_ofNat, ← zpow_natCast,
    ← zpow_add₀ (by norm_num)]
  congr 1
  omega

theorem sizeAt_infiniteMagnitude : sizeAt infiniteMagnitude = 2 ^ (1024 : ℤ) := by
  have hsplit : infiniteMagnitude = 2046 * 2 ^ 52 + 2 ^ 52 := by decide
  rw [hsplit, sizeAt_two_zpow]
  rfl

theorem zpow_lt_zpow_of_pow {a b m n : Nat} (h : a ^ m < b ^ n) :
    (a : ℚ) ^ (m : ℤ) < b ^ (n : ℤ) := by
  exact_mod_cast h

/-- A power of ten below one lies below the power of two with three times the exponent. -/
theorem ten_zpow_le {e : ℤ} (he : e ≤ 0) : (10 : ℚ) ^ e ≤ 2 ^ (3 * e) := by
  obtain ⟨n, rfl⟩ : ∃ n : Nat, e = -(n : ℤ) := ⟨e.natAbs, by omega⟩
  have height : (2 : ℚ) ^ (3 * -(n : ℤ)) = (8 ^ n)⁻¹ := by
    rw [zpow_mul, zpow_neg, zpow_natCast]
    norm_num
  rw [height, zpow_neg, zpow_natCast]
  gcongr
  norm_num

theorem middle_zero : middle 0 = 2 ^ (-1075 : ℤ) := by
  have hone : sizeAt 1 = 2 ^ (-1074 : ℤ) := by
    simp [sizeAt, units]
  rw [middle, sizeAt_zero, Nat.zero_add, hone, zero_add, show (-1074 : ℤ) = -1075 + 1 by norm_num,
    zpow_add_one₀ (by norm_num), mul_div_cancel_right₀ _ (by norm_num)]

/-- From `10 ^ 310` on the nearest number of all is too large. -/
theorem IsNearest.infiniteMagnitude_le {digits : Nat} {exponent : ℤ} {magnitude : Nat}
    (h : IsNearest (digits * 10 ^ exponent) magnitude) (hdigits : digits ≠ 0)
    (hlarge : 310 ≤ exponent) : infiniteMagnitude ≤ magnitude := by
  have hone : (1 : ℚ) ≤ digits := by exact_mod_cast Nat.pos_of_ne_zero hdigits
  have hbig : (2 : ℚ) ^ (1024 : ℤ) < 10 ^ exponent :=
    (zpow_lt_zpow_of_pow (a := 2) (b := 10) (m := 1024) (n := 310) (by decide +kernel)).trans_le
      (zpow_le_zpow_right₀ (by norm_num) hlarge)
  have hlt : sizeAt infiniteMagnitude < sizeAt (magnitude + 1) := by
    rw [sizeAt_infiniteMagnitude]
    calc (2 : ℚ) ^ (1024 : ℤ) < 10 ^ exponent := hbig
      _ ≤ digits * 10 ^ exponent := le_mul_of_one_le_left (by positivity) hone
      _ < sizeAt (magnitude + 1) := h.lt_next
  exact Nat.lt_succ_iff.mp (sizeAt_strictMono.lt_iff_lt.mp hlt)

/-- Far enough below one a decimal is nearest to zero. -/
theorem isNearest_zero {digits : Nat} {exponent : ℤ}
    (hsmall : digits.log2 + 1076 + 3 * exponent ≤ 0) : IsNearest (digits * 10 ^ exponent) 0 := by
  have hlog : (digits : ℚ) ≤ 2 ^ ((digits.log2 : ℤ) + 1) := by
    exact_mod_cast (Nat.lt_log2_self (n := digits)).le
  refine isNearest_of_between ?_ (by omega) (by omega)
  calc (digits : ℚ) * 10 ^ exponent ≤ 2 ^ ((digits.log2 : ℤ) + 1) * 2 ^ (3 * exponent) := by
        gcongr
        exact ten_zpow_le (by omega)
    _ = 2 ^ ((digits.log2 : ℤ) + 1 + 3 * exponent) := (zpow_add₀ (by norm_num) _ _).symm
    _ ≤ 2 ^ (-1075 : ℤ) := zpow_le_zpow_right₀ (by norm_num) (by omega)
    _ = middle 0 := middle_zero.symm

/-- Reading a decimal gives the nearest number of all, or an infinity if that is too large. -/
theorem exists_isNearest_decimalMagnitude (digits : Nat) (exponent : ℤ) :
    ∃ magnitude, IsNearest (digits * 10 ^ exponent) magnitude ∧
      decimalMagnitude digits exponent = min magnitude infiniteMagnitude := by
  rw [decimalMagnitude]
  by_cases hzero : digits = 0
  · refine ⟨0, ?_, by rw [if_pos hzero, Nat.zero_min]⟩
    simpa [hzero] using isNearest_sizeAt 0
  have hnum : digits * Nat.pow 10 exponent.toNat ≠ 0 := by
    rw [Nat.pow_eq]
    positivity
  have hden : Nat.pow 10 (-exponent).toNat ≠ 0 := by
    rw [Nat.pow_eq]
    positivity
  obtain ⟨magnitude, hnearest, hvalue⟩ := exists_isNearest_nearestMagnitude hnum hden
  have hquotient : ((digits * Nat.pow 10 exponent.toNat : ℕ) : ℚ) /
      (Nat.pow 10 (-exponent).toNat : ℕ) = digits * 10 ^ exponent := by
    rw [zpow_eq_div (by norm_num : (10 : ℚ) ≠ 0), Nat.pow_eq, Nat.pow_eq]
    push_cast
    exact mul_div_assoc _ _ _
  rw [hquotient] at hnearest
  refine ⟨magnitude, hnearest, ?_⟩
  rw [if_neg hzero]
  split_ifs with hlarge hsmall
  · exact (Nat.min_eq_right (hnearest.infiniteMagnitude_le hzero hlarge)).symm
  · rw [hnearest.unique (isNearest_zero hsmall), Nat.zero_min]
  · exact hvalue

theorem ofMagnitude_self (x : Binary64) : ofMagnitude x.isNegative x.magnitude = x := by
  have hlt := x.bits.toNat_lt
  obtain ⟨bits⟩ := x
  simp only [ofMagnitude, isNegative, magnitude, Nat.pow_eq, mk.injEq, decide_eq_true_eq]
  rw [← UInt64.toNat_inj, UInt64.toNat_ofNat']
  simp only at hlt
  split_ifs with h <;> omega

theorem magnitude_ofMagnitude {negative : Bool} {n : Nat} (hn : n < 2 ^ 63) :
    (ofMagnitude negative n).magnitude = n := by
  simp only [ofMagnitude, magnitude, Nat.pow_eq, UInt64.toNat_ofNat']
  split_ifs <;> omega

/-- A value below half of the least infinite size is nearest to a finite number. -/
theorem IsNearest.lt_infiniteMagnitude {v : ℚ} {magnitude : Nat} (h : IsNearest v magnitude)
    (hv : 2 * v < 2 ^ (1024 : ℤ)) : magnitude < infiniteMagnitude := by
  by_contra hlarge
  obtain ⟨n, rfl⟩ : ∃ n, magnitude = n + 1 := by
    have : 0 < infiniteMagnitude := by decide
    exact ⟨magnitude - 1, by omega⟩
  have hmiddle := h.middle_le
  have hsize : sizeAt infiniteMagnitude ≤ sizeAt (n + 1) := sizeAt_strictMono.monotone (by omega)
  have hbelow := sizeAt_nonneg n
  rw [sizeAt_infiniteMagnitude] at hsize
  rw [middle] at hmiddle
  linarith

/-- Every whole number of 64 bits is near a finite number. -/
theorem isFinite_ofDecimal {digits : Nat} (hdigits : digits < 2 ^ 64) (negative : Bool) :
    (ofDecimal negative digits 0).isFinite = true := by
  obtain ⟨magnitude, hnearest, hvalue⟩ := exists_isNearest_decimalMagnitude digits 0
  have hsmall : magnitude < infiniteMagnitude := by
    refine hnearest.lt_infiniteMagnitude ?_
    have hdouble : 2 * digits < 2 ^ 65 := by omega
    calc 2 * ((digits : ℚ) * 10 ^ (0 : ℤ)) = 2 * digits := by rw [zpow_zero, mul_one]
      _ < 2 ^ (65 : ℤ) := by exact_mod_cast hdouble
      _ < 2 ^ (1024 : ℤ) := zpow_lt_zpow_right₀ (by norm_num) (by norm_num)
  have hbound : infiniteMagnitude < 2 ^ 63 := by decide
  rw [isFinite, decide_eq_true_eq, ofDecimal, hvalue, Nat.min_eq_left hsmall.le,
    magnitude_ofMagnitude (by omega)]
  exact hsmall

/-- A decimal to which a finite number is the nearest is read as this number. -/
theorem ofDecimal_eq_of_isNearest {x : Binary64} (hfinite : x.isFinite = true) {digits : Nat}
    {exponent : ℤ} (h : IsNearest (digits * 10 ^ exponent) x.magnitude) :
    ofDecimal x.isNegative digits exponent = x := by
  obtain ⟨magnitude, hnearest, hvalue⟩ := exists_isNearest_decimalMagnitude digits exponent
  rw [isFinite, decide_eq_true_eq] at hfinite
  rw [ofDecimal, hvalue, hnearest.unique h, Nat.min_eq_left hfinite.le]
  exact x.ofMagnitude_self

end ControlPanel.Binary64
