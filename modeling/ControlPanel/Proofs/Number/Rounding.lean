import ControlPanel.Proofs.Number.Interval
import ControlPanel.Proofs.Number.Written

namespace ControlPanel.Binary64

/-- Reading the rational number gives the finite number `x`. It is not too large, no finite number
is nearer to it than `x`, and another one is equally near only if the significand of `x` is even. -/
structure RoundsTo (q : ℚ) (x : Binary64) : Prop where
  finite : x.isFinite = true
  in_range : |q| < 2 ^ (1024 : ℤ) - 2 ^ (970 : ℤ)
  nearest : ∀ y : Binary64, y.isFinite = true → |q - x.value| ≤ |q - y.value|
  even : ∀ y : Binary64, y.isFinite = true → y.value ≠ x.value →
    |q - x.value| = |q - y.value| → x.significand % 2 = 0

/-- The middle above the largest finite number. -/
theorem middle_largest :
    middle (infiniteMagnitude - 1) = 2 ^ (1024 : ℤ) - 2 ^ (970 : ℤ) := by
  have hlargest : infiniteMagnitude - 1 = 2045 * 2 ^ 52 + (2 ^ 53 - 1) := by decide
  have hnext : infiniteMagnitude - 1 + 1 = infiniteMagnitude := by decide
  have hunit : (2 : ℚ) ^ (((2045 : ℕ) : ℤ) - 1074) = 2 * 2 ^ (970 : ℤ) := by
    rw [← zpow_one_add₀ two_ne_zero]
    norm_num
  have htop : (2 : ℚ) ^ (1024 : ℤ) = 2 ^ 54 * 2 ^ (970 : ℤ) := by
    rw [← zpow_natCast, ← zpow_add₀ two_ne_zero]
    norm_num
  rw [middle, hnext, sizeAt_infiniteMagnitude, hlargest, sizeAt_binade (by omega) (by omega), hunit,
    htop]
  generalize (2 : ℚ) ^ (970 : ℤ) = t
  push_cast
  ring

theorem abs_value (x : Binary64) : |x.value| = sizeAt x.magnitude := by
  rw [value]
  split_ifs
  · rw [abs_neg, abs_of_nonneg (sizeAt_nonneg _)]
  · rw [abs_of_nonneg (sizeAt_nonneg _)]

/-- A rational number as seen in the direction of the number. -/
def along (x : Binary64) (q : ℚ) : ℚ :=
  if x.isNegative then -q else q

variable {x y : Binary64} {q : ℚ}

theorem abs_along (x : Binary64) (q : ℚ) : |x.along q| = |q| := by
  rw [along]
  split_ifs
  · exact abs_neg q
  · rfl

theorem distance_same_sign (hsign : y.isNegative = x.isNegative) (q : ℚ) :
    |q - y.value| = |x.along q - sizeAt y.magnitude| := by
  rw [value, along, hsign]
  split_ifs
  · rw [← abs_neg]
    congr 1
    ring
  · rfl

theorem distance_other_sign (hsign : y.isNegative ≠ x.isNegative) (q : ℚ) :
    |q - y.value| = |x.along q + sizeAt y.magnitude| := by
  rw [value, along]
  cases hx : x.isNegative <;> cases hy : y.isNegative
  · exact absurd (hy.trans hx.symm) hsign
  · simp only [if_true, Bool.false_eq_true, if_false]
    congr 1
    ring
  · simp only [if_true, Bool.false_eq_true, if_false]
    rw [← abs_neg]
    congr 1
    ring
  · exact absurd (hy.trans hx.symm) hsign

theorem isNegative_ofMagnitude {negative : Bool} {n : Nat} (hn : n < 2 ^ 63) :
    (ofMagnitude negative n).isNegative = negative := by
  rw [Bool.eq_iff_iff]
  simp only [ofMagnitude, isNegative, Nat.pow_eq, UInt64.toNat_ofNat', decide_eq_true_eq]
  cases negative <;> simp <;> omega

/-- A number of the same sign for every magnitude that a finite number can have. -/
theorem exists_finite (x : Binary64) {n : Nat} (hn : n < infiniteMagnitude) :
    ∃ y : Binary64, y.isFinite = true ∧ y.isNegative = x.isNegative ∧ y.magnitude = n := by
  have hbound : infiniteMagnitude < 2 ^ 63 := by decide
  have hmagnitude : (ofMagnitude x.isNegative n).magnitude = n := magnitude_ofMagnitude (by omega)
  refine ⟨ofMagnitude x.isNegative n, ?_, isNegative_ofMagnitude (by omega), hmagnitude⟩
  rw [isFinite, hmagnitude, decide_eq_true_eq]
  exact hn

theorem significand_parity (x : Binary64) : x.significand % 2 = x.magnitude % 2 := by
  obtain ⟨k, hmagnitude, -⟩ := x.exists_magnitude_eq
  omega

theorem IsNearest.lt_middle_largest {v : ℚ} {magnitude : Nat} (h : IsNearest v magnitude)
    (hfinite : magnitude < infiniteMagnitude) : v < middle (infiniteMagnitude - 1) := by
  obtain ⟨⟨hhigh, hodd⟩, -⟩ := isNearest_iff.mp h
  rcases Nat.lt_or_ge magnitude (infiniteMagnitude - 1) with hlt | hge
  · exact hhigh.trans_lt (middle_strictMono hlt)
  · obtain rfl : magnitude = infiniteMagnitude - 1 := by omega
    exact lt_of_le_of_ne hhigh (hodd (by decide))

theorem IsNearest.abs_le {v : ℚ} {magnitude : Nat} (h : IsNearest v magnitude) (n : Nat) :
    |v - sizeAt magnitude| ≤ |v - sizeAt n| := by
  rcases eq_or_ne n magnitude with rfl | hne
  · exact le_rfl
  · rcases h n hne with hlt | heq
    · exact hlt.le
    · exact heq.1.le

/-- For a value that is not too large it is enough to look at the finite numbers. -/
theorem isNearest_of_finite {v : ℚ} {magnitude : Nat} (hv : v < middle (infiniteMagnitude - 1))
    (h : ∀ n < infiniteMagnitude, |v - sizeAt magnitude| ≤ |v - sizeAt n| ∧
      (n ≠ magnitude → |v - sizeAt magnitude| = |v - sizeAt n| → magnitude % 2 = 0)) :
    IsNearest v magnitude := by
  intro other hne
  rcases Nat.lt_or_ge other infiniteMagnitude with hlt | hge
  · obtain ⟨hle, heven⟩ := h other hlt
    exact hle.lt_or_eq.imp_right fun heq => ⟨heq, heven hne heq⟩
  · -- The largest finite number is nearer than what is too large.
    left
    obtain ⟨hle, -⟩ := h (infiniteMagnitude - 1) (by decide)
    exact hle.trans_lt (nearer_of_lt_middle hge hv)

theorem value_ne_of_magnitude (hsign : y.isNegative = x.isNegative)
    (hne : y.magnitude ≠ x.magnitude) : y.value ≠ x.value := by
  have hsize : sizeAt y.magnitude ≠ sizeAt x.magnitude := sizeAt_strictMono.injective.ne hne
  rw [value, value, hsign]
  split_ifs
  · exact neg_injective.ne hsize
  · exact hsize

/-- Whatever has the other sign is farther away than what has the same size and the same sign. -/
theorem along_distance_le (hq : 0 ≤ x.along q) (y : Binary64) :
    |x.along q - sizeAt y.magnitude| ≤ |q - y.value| := by
  by_cases hsign : y.isNegative = x.isNegative
  · exact (distance_same_sign hsign q).ge
  · have hsize := sizeAt_nonneg y.magnitude
    rw [distance_other_sign hsign, abs_of_nonneg (by linarith : 0 ≤ x.along q + sizeAt y.magnitude),
      abs_le]
    constructor <;> linarith

theorem RoundsTo.isNearest (h : RoundsTo q x) : IsNearest (x.along q) x.magnitude := by
  refine isNearest_of_finite ?_ fun n hn => ?_
  · rw [middle_largest]
    exact (le_abs_self _).trans_lt (x.abs_along q ▸ h.in_range)
  · obtain ⟨y, hy, hsign, rfl⟩ := x.exists_finite hn
    have hnearest := h.nearest y hy
    have heven := h.even y hy
    rw [distance_same_sign rfl, distance_same_sign hsign] at hnearest heven
    rw [significand_parity] at heven
    exact ⟨hnearest, fun hne => heven (value_ne_of_magnitude hsign hne)⟩

theorem roundsTo_of_isNearest (hfinite : x.isFinite = true) (hx : 0 < x.magnitude)
    (h : IsNearest (x.along q) x.magnitude) : RoundsTo q x := by
  have hpos := h.pos hx
  have hself : |q - x.value| = |x.along q - sizeAt x.magnitude| := distance_same_sign rfl q
  refine ⟨hfinite, ?_, fun y hy => ?_, fun y hy hne heq => ?_⟩
  · rw [isFinite, decide_eq_true_eq] at hfinite
    rw [← x.abs_along, abs_of_pos hpos, ← middle_largest]
    exact h.lt_middle_largest hfinite
  · rw [hself]
    exact (h.abs_le y.magnitude).trans (along_distance_le hpos.le y)
  · rw [significand_parity]
    rw [hself] at heq
    by_cases hmagnitude : y.magnitude = x.magnitude
    · have hsign : y.isNegative ≠ x.isNegative := by
        intro hsign
        exact hne (by rw [value, value, hsign, hmagnitude])
      have hsize : 0 < sizeAt x.magnitude := by
        rw [← sizeAt_zero]
        exact sizeAt_strictMono hx
      rw [distance_other_sign hsign, hmagnitude] at heq
      rcases abs_cases (x.along q - sizeAt x.magnitude) with h₁ | h₁ <;>
        rcases abs_cases (x.along q + sizeAt x.magnitude) with h₂ | h₂ <;> linarith
    · rcases h y.magnitude hmagnitude with hlt | heven
      · exact absurd heq (hlt.trans_le (along_distance_le hpos.le y)).ne
      · exact heven.2

end ControlPanel.Binary64
