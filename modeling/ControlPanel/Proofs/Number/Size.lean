import Mathlib
import ControlPanel.Number.Nearest

/-!
Magnitudes are taken without an upper bound here, so that a number too large for every finite one
still has a nearest magnitude.
-/

namespace ControlPanel.Binary64

/-- How many times the least positive number goes into the number of a magnitude. -/
def units (magnitude : Nat) : Nat :=
  if magnitude < 2 ^ 52 then magnitude
  else (2 ^ 52 + magnitude % 2 ^ 52) * 2 ^ (magnitude / 2 ^ 52 - 1)

/-- The number of a magnitude, without its sign. -/
def sizeAt (magnitude : Nat) : ℚ :=
  units magnitude * (2 : ℚ) ^ (-1074 : ℤ)

/-- The value half-way between the numbers of a magnitude and of the next one. -/
def middle (magnitude : Nat) : ℚ :=
  (sizeAt magnitude + sizeAt (magnitude + 1)) / 2

/-- The number of the magnitude is the nearest to `v`; of two equally near ones it is the one with
the even magnitude. -/
def IsNearest (v : ℚ) (magnitude : Nat) : Prop :=
  ∀ other, other ≠ magnitude →
    |v - sizeAt magnitude| < |v - sizeAt other| ∨
      (|v - sizeAt magnitude| = |v - sizeAt other| ∧ magnitude % 2 = 0)

/-- The real number that a finite number stands for. -/
def value (x : Binary64) : ℚ :=
  if x.isNegative then -sizeAt x.magnitude else sizeAt x.magnitude

theorem units_binade {k m : Nat} (hm : m ≤ 2 ^ 53) (hk : k = 0 ∨ 2 ^ 52 ≤ m) :
    units (k * 2 ^ 52 + m) = m * 2 ^ k := by
  rcases Nat.lt_or_ge m (2 ^ 52) with hlt | hge
  · have hzero : k = 0 := by omega
    subst hzero
    rw [units, if_pos (by omega)]
    omega
  · have hnot : ¬ k * 2 ^ 52 + m < 2 ^ 52 := by omega
    rcases Nat.lt_or_ge m (2 ^ 53) with hsmall | htop
    · have hdiv : (k * 2 ^ 52 + m) / 2 ^ 52 = k + 1 := by omega
      have hmod : (k * 2 ^ 52 + m) % 2 ^ 52 = m - 2 ^ 52 := by omega
      rw [units, if_neg hnot, hdiv, hmod, Nat.add_sub_cancel' hge, Nat.add_sub_cancel]
    · have hm : m = 2 ^ 53 := by omega
      subst hm
      have hdiv : (k * 2 ^ 52 + 2 ^ 53) / 2 ^ 52 = k + 2 := by omega
      have hmod : (k * 2 ^ 52 + 2 ^ 53) % 2 ^ 52 = 0 := by omega
      rw [units, if_neg hnot, hdiv, hmod]
      rw [Nat.add_zero, show k + 2 - 1 = k + 1 by omega]
      ring

theorem exists_binade (magnitude : Nat) :
    ∃ k m, magnitude = k * 2 ^ 52 + m ∧ m < 2 ^ 53 ∧ (k = 0 ∨ 2 ^ 52 ≤ m) := by
  rcases Nat.lt_or_ge magnitude (2 ^ 52) with hlt | hge
  · exact ⟨0, magnitude, by omega, by omega, .inl rfl⟩
  · refine ⟨magnitude / 2 ^ 52 - 1, 2 ^ 52 + magnitude % 2 ^ 52, ?_, ?_, .inr ?_⟩ <;> omega

theorem units_strictMono : StrictMono units := by
  refine strictMono_nat_of_lt_succ fun magnitude => ?_
  obtain ⟨k, m, rfl, hm, hk⟩ := exists_binade magnitude
  rw [Nat.add_assoc, units_binade (by omega) hk, units_binade (by omega) (by omega)]
  exact Nat.mul_lt_mul_of_pos_right (Nat.lt_succ_self m) (Nat.two_pow_pos k)

theorem sizeAt_strictMono : StrictMono sizeAt := by
  intro a b hab
  have hunits : (units a : ℚ) < units b := by exact_mod_cast units_strictMono hab
  exact mul_lt_mul_of_pos_right hunits (by positivity)

@[simp] theorem sizeAt_zero : sizeAt 0 = 0 := by
  simp [sizeAt, units]

theorem sizeAt_nonneg (magnitude : Nat) : 0 ≤ sizeAt magnitude := by
  rw [sizeAt]
  positivity

theorem sizeAt_binade {k m : Nat} (hm : m ≤ 2 ^ 53) (hk : k = 0 ∨ 2 ^ 52 ≤ m) :
    sizeAt (k * 2 ^ 52 + m) = m * (2 : ℚ) ^ ((k : ℤ) - 1074) := by
  rw [sizeAt, units_binade hm hk, sub_eq_add_neg, zpow_add₀ (by norm_num), zpow_natCast,
    Nat.cast_mul, Nat.cast_pow, Nat.cast_ofNat, mul_assoc]

theorem middle_lt (magnitude : Nat) : middle magnitude < sizeAt (magnitude + 1) := by
  have := sizeAt_strictMono (Nat.lt_succ_self magnitude)
  rw [middle]
  linarith

theorem lt_middle (magnitude : Nat) : sizeAt magnitude < middle magnitude := by
  have := sizeAt_strictMono (Nat.lt_succ_self magnitude)
  rw [middle]
  linarith

theorem middle_strictMono : StrictMono middle :=
  strictMono_nat_of_lt_succ fun n => (middle_lt n).trans (lt_middle (n + 1))

/-- The next size is at least one unit away: two units at the end of a binade. -/
theorem le_sizeAt_succ {k m : Nat} (hm : m ≤ 2 ^ 53) (hk : k = 0 ∨ 2 ^ 52 ≤ m) :
    ((m : ℚ) + 1) * 2 ^ ((k : ℤ) - 1074) ≤ sizeAt (k * 2 ^ 52 + m + 1) := by
  rcases Nat.lt_or_ge m (2 ^ 53) with hlt | hge
  · rw [Nat.add_assoc, sizeAt_binade (by omega) (by omega), Nat.cast_add_one]
  · have htop : m = 2 ^ 53 := by omega
    have hcarry : k * 2 ^ 52 + m + 1 = (k + 1) * 2 ^ 52 + (2 ^ 52 + 1) := by omega
    have hdouble : (2 : ℚ) ^ (((k + 1 : ℕ) : ℤ) - 1074) = 2 ^ ((k : ℤ) - 1074) * 2 := by
      rw [← zpow_add_one₀ (by norm_num)]
      congr 1
      push_cast
      ring
    have hpos : (0 : ℚ) < 2 ^ ((k : ℤ) - 1074) := by positivity
    rw [hcarry, sizeAt_binade (by omega) (by omega), hdouble, htop]
    generalize (2 : ℚ) ^ ((k : ℤ) - 1074) = t at hpos
    push_cast
    linarith

/-- The middle above a size is at least half a unit away. -/
theorem le_middle_binade {k m : Nat} (hm : m ≤ 2 ^ 53) (hk : k = 0 ∨ 2 ^ 52 ≤ m) :
    ((m : ℚ) + 1 / 2) * 2 ^ ((k : ℤ) - 1074) ≤ middle (k * 2 ^ 52 + m) := by
  have hnext := le_sizeAt_succ hm hk
  rw [middle, sizeAt_binade hm hk]
  generalize sizeAt (k * 2 ^ 52 + m + 1) = next at hnext ⊢
  linarith

/-- Within a binade the middle below a size is half a unit away. -/
theorem middle_pred {k m n : Nat} (hn : n + 1 = k * 2 ^ 52 + m) (hm : m ≤ 2 ^ 53)
    (hk : k = 0 ∨ 2 ^ 52 < m) : middle n = (m - 1 / 2) * 2 ^ ((k : ℤ) - 1074) := by
  have hpred : n = k * 2 ^ 52 + (m - 1) := by omega
  rw [middle, hn, sizeAt_binade hm (by omega), hpred, sizeAt_binade (by omega) (by omega),
    Nat.cast_sub (by omega), Nat.cast_one]
  ring

theorem nearer_lower_iff {v a b : ℚ} (h : a < b) : |v - a| < |v - b| ↔ v < (a + b) / 2 := by
  rw [← sq_lt_sq, lt_div_iff₀ (by norm_num)]
  constructor <;> intro hv <;> nlinarith

theorem nearer_upper_iff {v a b : ℚ} (h : a < b) : |v - b| < |v - a| ↔ (a + b) / 2 < v := by
  rw [← sq_lt_sq, div_lt_iff₀ (by norm_num)]
  constructor <;> intro hv <;> nlinarith

section Sides

variable {v : ℚ} {n other : Nat}

/-- Above the middle the upper number is nearer than every lower one. -/
theorem nearer_of_middle_lt (hother : other ≤ n) (hv : middle n < v) :
    |v - sizeAt (n + 1)| < |v - sizeAt other| := by
  have hsize : sizeAt other ≤ sizeAt n := sizeAt_strictMono.monotone hother
  have hstep : sizeAt other < sizeAt (n + 1) := sizeAt_strictMono (by omega)
  rw [middle] at hv
  rw [nearer_upper_iff hstep]
  linarith

theorem near_of_middle_le (hother : other ≤ n) (hv : middle n ≤ v) :
    |v - sizeAt (n + 1)| ≤ |v - sizeAt other| := by
  have hsize : sizeAt other ≤ sizeAt n := sizeAt_strictMono.monotone hother
  have hstep : sizeAt other < sizeAt (n + 1) := sizeAt_strictMono (by omega)
  rw [middle] at hv
  rw [← not_lt, nearer_lower_iff hstep]
  linarith

/-- Below the middle the lower number is nearer than every upper one. -/
theorem nearer_of_lt_middle (hother : n + 1 ≤ other) (hv : v < middle n) :
    |v - sizeAt n| < |v - sizeAt other| := by
  have hsize : sizeAt (n + 1) ≤ sizeAt other := sizeAt_strictMono.monotone hother
  have hstep : sizeAt n < sizeAt other := sizeAt_strictMono (by omega)
  rw [middle] at hv
  rw [nearer_lower_iff hstep]
  linarith

theorem near_of_le_middle (hother : n + 1 ≤ other) (hv : v ≤ middle n) :
    |v - sizeAt n| ≤ |v - sizeAt other| := by
  have hsize : sizeAt (n + 1) ≤ sizeAt other := sizeAt_strictMono.monotone hother
  have hstep : sizeAt n < sizeAt other := sizeAt_strictMono (by omega)
  rw [middle] at hv
  rw [← not_lt, nearer_upper_iff hstep]
  linarith

end Sides

/-- A number is the nearest to every value between the middles on its two sides, and to the middles
themselves if its magnitude is even. -/
theorem isNearest_of_between {v : ℚ} {magnitude : Nat} (hhigh : v ≤ middle magnitude)
    (hlow : ∀ n, n + 1 = magnitude → middle n ≤ v)
    (hodd : magnitude % 2 = 1 → v ≠ middle magnitude ∧ ∀ n, n + 1 = magnitude → v ≠ middle n) :
    IsNearest v magnitude := by
  intro other hne
  rcases Nat.mod_two_eq_zero_or_one magnitude with heven | hone
  · have hnear : |v - sizeAt magnitude| ≤ |v - sizeAt other| := by
      rcases Nat.lt_or_gt_of_ne hne with hbelow | habove
      · obtain ⟨n, rfl⟩ : ∃ n, magnitude = n + 1 := ⟨magnitude - 1, by omega⟩
        exact near_of_middle_le (by omega) (hlow n rfl)
      · exact near_of_le_middle habove hhigh
    exact hnear.lt_or_eq.imp_right fun heq => ⟨heq, heven⟩
  · left
    obtain ⟨hneHigh, hneLow⟩ := hodd hone
    rcases Nat.lt_or_gt_of_ne hne with hbelow | habove
    · obtain ⟨n, rfl⟩ : ∃ n, magnitude = n + 1 := ⟨magnitude - 1, by omega⟩
      exact nearer_of_middle_lt (by omega) (lt_of_le_of_ne (hlow n rfl) (hneLow n rfl).symm)
    · exact nearer_of_lt_middle habove (lt_of_le_of_ne hhigh hneHigh)

/-- A number is the nearest to the values between the middles on its two sides, and to the middles
themselves only if its magnitude is even. -/
theorem isNearest_iff {v : ℚ} {magnitude : Nat} :
    IsNearest v magnitude ↔
      (v ≤ middle magnitude ∧ (magnitude % 2 = 1 → v ≠ middle magnitude)) ∧
        ∀ n, n + 1 = magnitude → middle n ≤ v ∧ (magnitude % 2 = 1 → v ≠ middle n) := by
  constructor
  · intro h
    refine ⟨?_, ?_⟩
    · have hstep := sizeAt_strictMono (Nat.lt_succ_self magnitude)
      rcases h (magnitude + 1) (by omega) with hnext | ⟨hnext, heven⟩
      · rw [nearer_lower_iff hstep] at hnext
        exact ⟨hnext.le, fun _ => hnext.ne⟩
      · refine ⟨not_lt.mp fun hlt => ?_, fun hodd => by omega⟩
        exact ((nearer_upper_iff hstep).mpr hlt).ne' hnext
    · rintro n rfl
      have hstep := sizeAt_strictMono (Nat.lt_succ_self n)
      rcases h n (by omega) with hnext | ⟨hnext, heven⟩
      · rw [nearer_upper_iff hstep] at hnext
        exact ⟨hnext.le, fun _ => hnext.ne'⟩
      · refine ⟨not_lt.mp fun hlt => ?_, fun hodd => by omega⟩
        exact ((nearer_lower_iff hstep).mpr hlt).ne' hnext
  · rintro ⟨⟨hhigh, hoddHigh⟩, hlow⟩
    exact isNearest_of_between hhigh (fun n hn => (hlow n hn).1)
      fun hodd => ⟨hoddHigh hodd, fun n hn => (hlow n hn).2 hodd⟩

theorem IsNearest.le_middle {v : ℚ} {magnitude : Nat} (h : IsNearest v magnitude) :
    v ≤ middle magnitude :=
  (isNearest_iff.mp h).1.1

theorem IsNearest.middle_le {v : ℚ} {n : Nat} (h : IsNearest v (n + 1)) : middle n ≤ v :=
  ((isNearest_iff.mp h).2 n rfl).1

theorem IsNearest.lt_next {v : ℚ} {magnitude : Nat} (h : IsNearest v magnitude) :
    v < sizeAt (magnitude + 1) :=
  h.le_middle.trans_lt (middle_lt magnitude)

theorem isNearest_sizeAt (magnitude : Nat) : IsNearest (sizeAt magnitude) magnitude := by
  intro other hne
  left
  rw [sub_self, abs_zero, abs_pos, sub_ne_zero]
  exact fun h => hne (sizeAt_strictMono.injective h).symm

theorem IsNearest.unique {v : ℚ} {a b : Nat} (ha : IsNearest v a) (hb : IsNearest v b) :
    a = b := by
  by_contra hne
  wlog hlt : a < b generalizing a b
  · exact this hb ha (Ne.symm hne) (by omega)
  obtain ⟨n, rfl⟩ : ∃ n, b = n + 1 := ⟨b - 1, by omega⟩
  obtain ⟨⟨hhigh, hoddHigh⟩, -⟩ := isNearest_iff.mp ha
  obtain ⟨hlow, hoddLow⟩ := (isNearest_iff.mp hb).2 n rfl
  -- The two are neighbours with the value in their middle, and one of them is odd.
  have hn : n ≤ a := middle_strictMono.le_iff_le.mp (hlow.trans hhigh)
  obtain rfl : a = n := by omega
  have hmiddle := hhigh.antisymm hlow
  rcases Nat.mod_two_eq_zero_or_one a with heven | hodd
  · exact hoddLow (by omega) hmiddle
  · exact hoddHigh hodd hmiddle

end ControlPanel.Binary64
