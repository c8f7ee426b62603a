import ControlPanel.Number.Written
import ControlPanel.Proofs.Number.Digits
import ControlPanel.Proofs.Number.Shortest

namespace ControlPanel

namespace Decimal

/-- The digits before and after a point stand for a value. -/
def placedValue (whole part : List Char) : ℚ :=
  (Nat.ofDigitChars 10 (whole ++ part) 0 : ℚ) * 10 ^ (-(part.length : ℤ))

theorem placed_spec {d : Decimal} (hd : 0 < d.digits) :
    Whole d.placed.1 ∧ AllDigits d.placed.2 ∧ placedValue d.placed.1 d.placed.2 = d.value := by
  obtain ⟨c, cs, hcons, hc, hne, hcs⟩ := exists_toDigits_eq_cons hd
  have hall := allDigits_toDigits d.digits
  have hvalue : Nat.ofDigitChars 10 d.digitChars 0 = d.digits := Nat.ofDigitChars_ten_toDigits
  have hhead : d.digitChars = c :: cs := hcons
  change AllDigits d.digitChars at hall
  simp only [placed]
  split_ifs with hwhole hinside
  · refine ⟨?_, by simp [AllDigits], ?_⟩
    · rw [hhead]
      exact .digits hc hne (hcs.append (allDigits_replicate_zero _))
    · obtain ⟨e, he⟩ := Int.eq_ofNat_of_zero_le (by omega : 0 ≤ d.exponent)
      rw [placedValue, List.append_nil, Nat.ofDigitChars_append, hvalue,
        Nat.ofDigitChars_replicate_zero, Decimal.value, he, Int.toNat_natCast, zpow_natCast]
      simp [mul_comm]
  · refine ⟨?_, fun x hx => hall x (List.mem_of_mem_drop hx), ?_⟩
    · obtain ⟨n, hn⟩ : ∃ n, d.digitChars.length - (-d.exponent).toNat = n + 1 :=
        ⟨d.digitChars.length - (-d.exponent).toNat - 1, by omega⟩
      rw [hn, hhead, List.take_succ_cons]
      exact .digits hc hne fun x hx => hcs x (List.mem_of_mem_take hx)
    · rw [placedValue, List.take_append_drop, hvalue, Decimal.value, List.length_drop]
      congr 2
      omega
  · refine ⟨.zero, (allDigits_replicate_zero _).append hall, ?_⟩
    have hzeros : Nat.ofDigitChars 10 (['0'] ++ (List.replicate ((-d.exponent).toNat -
        d.digitChars.length) '0' ++ d.digitChars)) 0 = d.digits := by
      rw [Nat.ofDigitChars_append, Nat.ofDigitChars_append, Nat.ofDigitChars_replicate_zero]
      simpa [Nat.ofDigitChars_cons] using hvalue
    rw [placedValue, hzeros, Decimal.value, List.length_append, List.length_replicate]
    congr 2
    omega

/-- What follows the point ends in the last digit. -/
theorem getLast?_placed {d : Decimal} {c : Char} (hc : c ∈ d.placed.2.getLast?) :
    c = Nat.digitChar (d.digits % 10) := by
  have hlast : d.digitChars.getLast? = some (Nat.digitChar (d.digits % 10)) :=
    getLast?_toDigits d.digits
  simp only [placed] at hc
  split_ifs at hc
  · cases hc
  · rw [List.getLast?_drop, if_neg (by omega), hlast] at hc
    exact (Option.some.inj hc).symm
  · rw [List.getLast?_append, hlast, Option.some_or] at hc
    exact (Option.some.inj hc).symm

theorem leadingExponent_bounds {d : Decimal} (hd : 0 < d.digits) :
    (10 : ℚ) ^ d.leadingExponent ≤ d.value ∧ d.value < 10 ^ (d.leadingExponent + 1) := by
  have hlength : 0 < d.digitChars.length := Nat.length_toDigits_pos
  have hupper : d.digits < 10 ^ d.digitChars.length :=
    (Nat.length_toDigits_le_iff (by norm_num) hlength).mp le_rfl
  have hlower : 10 ^ (d.digitChars.length - 1) ≤ d.digits := by
    by_contra hlt
    rcases Nat.eq_zero_or_pos (d.digitChars.length - 1) with hzero | hpos
    · rw [hzero] at hlt
      omega
    · have := (Nat.length_toDigits_le_iff (b := 10) (by norm_num) hpos).mpr (Nat.not_le.mp hlt)
      change d.digitChars.length ≤ _ at this
      omega
  have hlower' : (10 : ℚ) ^ (d.digitChars.length - 1) ≤ d.digits := by exact_mod_cast hlower
  have hupper' : (d.digits : ℚ) < 10 ^ d.digitChars.length := by exact_mod_cast hupper
  rw [Decimal.value, leadingExponent]
  constructor
  · have hsplit : (10 : ℚ) ^ (d.exponent + d.digitChars.length - 1) =
        10 ^ (d.digitChars.length - 1) * 10 ^ d.exponent := by
      rw [← zpow_natCast, ← zpow_add₀ (by norm_num)]
      congr 1
      omega
    rw [hsplit]
    gcongr
  · have hsplit : (10 : ℚ) ^ (d.exponent + d.digitChars.length - 1 + 1) =
        10 ^ d.digitChars.length * 10 ^ d.exponent := by
      rw [← zpow_natCast, ← zpow_add₀ (by norm_num)]
      congr 1
      omega
    rw [hsplit]
    gcongr

end Decimal

namespace Binary64

theorem magnitude_pos {x : Binary64} (h : x.isZero = false) : 0 < x.magnitude := by
  rw [isZero, beq_eq_false_iff_ne] at h
  omega

theorem digits_shortest_pos {x : Binary64} (h : x.isZero = false) (tie : Tie) :
    0 < (x.shortest tie).digits := by
  by_contra hzero
  have hnearest := x.isNearest_shortest tie
  have hdigits : (x.shortest tie).digits = 0 := by omega
  rw [Decimal.value, hdigits, Nat.cast_zero, zero_mul, ← sizeAt_zero] at hnearest
  have := hnearest.unique (isNearest_sizeAt 0)
  have := magnitude_pos h
  omega

theorem leadingExponent_shortest {x : Binary64} (hfinite : x.isFinite = true)
    (hzero : x.isZero = false) (tie : Tie) :
    -1076 ≤ (x.shortest tie).leadingExponent ∧ (x.shortest tie).leadingExponent ≤ 1024 := by
  have hnearest := x.isNearest_shortest tie
  obtain ⟨hlow, hhigh⟩ := Decimal.leadingExponent_bounds (digits_shortest_pos hzero tie)
  have hpos := magnitude_pos hzero
  rw [isFinite, decide_eq_true_eq] at hfinite
  constructor
  · obtain ⟨n, hn⟩ : ∃ n, x.magnitude = n + 1 := ⟨x.magnitude - 1, by omega⟩
    rw [hn] at hnearest
    have hsmall : (10 : ℚ) ^ (-1075 : ℤ) < 10 ^ ((x.shortest tie).leadingExponent + 1) := by
      calc (10 : ℚ) ^ (-1075 : ℤ) ≤ 2 ^ (3 * (-1075 : ℤ)) := ten_zpow_le (by norm_num)
        _ ≤ 2 ^ (-1075 : ℤ) := zpow_le_zpow_right₀ (by norm_num) (by norm_num)
        _ = middle 0 := middle_zero.symm
        _ ≤ middle n := by
            have h₀ := sizeAt_strictMono.monotone (Nat.zero_le n)
            have h₁ := sizeAt_strictMono.monotone (Nat.succ_le_succ (Nat.zero_le n))
            rw [middle, middle]
            simp only [Nat.succ_eq_add_one] at h₁
            linarith
        _ ≤ (x.shortest tie).value := hnearest.middle_le
        _ < _ := hhigh
    have := (zpow_lt_zpow_iff_right₀ (by norm_num : (1 : ℚ) < 10)).mp hsmall
    omega
  · have hbig : (10 : ℚ) ^ (x.shortest tie).leadingExponent < 10 ^ (1024 : ℤ) := by
      calc (10 : ℚ) ^ (x.shortest tie).leadingExponent ≤ (x.shortest tie).value := hlow
        _ < sizeAt (x.magnitude + 1) := hnearest.lt_next
        _ ≤ sizeAt infiniteMagnitude := sizeAt_strictMono.monotone hfinite
        _ = 2 ^ (1024 : ℤ) := sizeAt_infiniteMagnitude
        _ ≤ 10 ^ (1024 : ℤ) := zpow_le_zpow_left₀ (by norm_num) (by norm_num) (by norm_num)
    exact ((zpow_lt_zpow_iff_right₀ (by norm_num : (1 : ℚ) < 10)).mp hbig).le

/-- The text of the size of a number in a script. -/
def sizeChars (x : Binary64) : List Char :=
  if x.isZero then ['0'] else (x.shortest .awayFromZero).plain

/-- The digits before and after a point, which is left out if none follow. -/
def pointed (whole part : List Char) : List Char :=
  if part = [] then whole else whole ++ '.' :: part

/-- The characters write a decimal to which no number is nearer than the size of `x`. -/
def Writes (cs : List Char) (x : Binary64) : Prop :=
  ∃ whole part, Whole whole ∧ AllDigits part ∧ cs = pointed whole part ∧
    IsNearest (Decimal.placedValue whole part) x.magnitude

theorem scriptChars_eq (x : Binary64) :
    x.scriptChars = if x.isZero then x.sizeChars else x.signed x.sizeChars := by
  rw [scriptChars, sizeChars]
  split_ifs <;> rfl

theorem plain_eq_pointed (d : Decimal) : d.plain = pointed d.placed.1 d.placed.2 := by
  rw [Decimal.plain]
  generalize d.placed = placed
  obtain ⟨whole, part⟩ := placed
  cases part <;> simp [pointed]

theorem writes_sizeChars (x : Binary64) : Writes x.sizeChars x := by
  rw [sizeChars]
  split_ifs with hzero
  · rw [isZero, beq_iff_eq] at hzero
    refine ⟨['0'], [], .zero, by simp [AllDigits], by simp [pointed], ?_⟩
    have hvalue : Decimal.placedValue ['0'] [] = sizeAt 0 := by
      simp [Decimal.placedValue, Nat.ofDigitChars_cons]
    rw [hvalue, hzero]
    exact isNearest_sizeAt 0
  · rw [Bool.not_eq_true] at hzero
    obtain ⟨hwhole, hpart, hvalue⟩ :=
      Decimal.placed_spec (digits_shortest_pos hzero .awayFromZero)
    refine ⟨_, _, hwhole, hpart, plain_eq_pointed _, ?_⟩
    rw [hvalue]
    exact x.isNearest_shortest .awayFromZero

theorem pointed_takeWhile (part : List Char) {whole : List Char} (hwhole : AllDigits whole) :
    (pointed whole part).takeWhile Char.isDigit = whole ∧
      ((pointed whole part).dropWhile Char.isDigit).tail = part := by
  rw [pointed]
  split_ifs with hpart
  · rw [List.takeWhile_eq_self_iff.mpr hwhole, List.dropWhile_eq_nil_iff.mpr hwhole, hpart]
    exact ⟨rfl, rfl⟩
  · rw [List.takeWhile_append_of_pos hwhole, List.dropWhile_append_of_pos hwhole,
      List.takeWhile_cons_of_neg (by decide), List.dropWhile_cons_of_neg (by decide),
      List.append_nil]
    exact ⟨rfl, rfl⟩

/-- The characters that write the size of a number write no other size. -/
theorem Writes.magnitude_eq {cs : List Char} {x y : Binary64} (hx : Writes cs x)
    (hy : Writes cs y) : x.magnitude = y.magnitude := by
  obtain ⟨whole, part, hwhole, -, hcs, hnearest⟩ := hx
  obtain ⟨whole', part', hwhole', -, hcs', hnearest'⟩ := hy
  obtain ⟨htake, hdrop⟩ := pointed_takeWhile part hwhole.allDigits
  obtain ⟨htake', hdrop'⟩ := pointed_takeWhile part' hwhole'.allDigits
  rw [← hcs] at htake hdrop
  rw [← hcs'] at htake' hdrop'
  rw [← htake, ← hdrop] at hnearest
  rw [← htake', ← hdrop'] at hnearest'
  exact hnearest.unique hnearest'

theorem Writes.exists_head {cs : List Char} {x : Binary64} (h : Writes cs x) :
    ∃ c ds, cs = c :: ds ∧ c.isDigit = true := by
  obtain ⟨whole, part, hwhole, -, rfl, -⟩ := h
  cases hwhole with
  | zero =>
      rw [pointed]
      split_ifs
      · exact ⟨'0', [], rfl, rfl⟩
      · exact ⟨'0', _, rfl, rfl⟩
  | digits hc _ _ =>
      rw [pointed]
      split_ifs
      · exact ⟨_, _, rfl, hc⟩
      · exact ⟨_, _, rfl, hc⟩

theorem eq_of_sign_magnitude {x y : Binary64} (hsign : x.isNegative = y.isNegative)
    (hmagnitude : x.magnitude = y.magnitude) : x = y := by
  rw [← ofMagnitude_self x, ← ofMagnitude_self y, hsign, hmagnitude]

theorem isZero_iff_value {x : Binary64} : x.isZero = true ↔ x.value = 0 := by
  have hsize : sizeAt x.magnitude = 0 ↔ x.magnitude = 0 := by
    rw [← sizeAt_zero]
    exact sizeAt_strictMono.injective.eq_iff
  rw [isZero, beq_iff_eq, ← hsize, value]
  split_ifs <;> simp

theorem value_eq_iff {x y : Binary64} (hx : x.isZero = false) :
    x.value = y.value ↔ x = y := by
  refine ⟨fun h => ?_, fun h => congrArg value h⟩
  have hpos : 0 < sizeAt x.magnitude := by
    rw [← sizeAt_zero]
    exact sizeAt_strictMono (magnitude_pos hx)
  have hnonneg := sizeAt_nonneg y.magnitude
  have hsize : ∀ {a b : Nat}, sizeAt a = sizeAt b → a = b := fun h =>
    sizeAt_strictMono.injective h
  rw [value, value] at h
  cases hsign : x.isNegative <;> cases hsign' : y.isNegative <;> rw [hsign, hsign'] at h
  · exact eq_of_sign_magnitude (hsign.trans hsign'.symm) (hsize h)
  · simp at h
    linarith
  · simp at h
    linarith
  · exact eq_of_sign_magnitude (hsign.trans hsign'.symm) (hsize (neg_injective h))

theorem scriptChars_of_isZero {x : Binary64} (hx : x.isZero = true) : x.scriptChars = ['0'] := by
  rw [scriptChars, if_pos hx]

theorem scriptChars_ne_zero {x : Binary64} (hx : x.isZero = false) : x.scriptChars ≠ ['0'] := by
  have hzero : Writes ['0'] zero := writes_sizeChars zero
  rw [scriptChars_eq, if_neg (by simp [hx]), signed]
  split_ifs
  · simp
  · intro h
    have hwrites := x.writes_sizeChars
    rw [h] at hwrites
    have hmagnitude := hwrites.magnitude_eq hzero
    have hpos := magnitude_pos hx
    rw [hmagnitude] at hpos
    exact absurd hpos (by decide)

/-- Two numbers have the same text in a script exactly if they are the same real number. -/
theorem scriptChars_eq_iff {x y : Binary64} :
    x.scriptChars = y.scriptChars ↔ x.value = y.value := by
  cases hx : x.isZero with
  | true =>
      rw [isZero_iff_value.mp hx, scriptChars_of_isZero hx]
      cases hy : y.isZero with
      | true => simp [isZero_iff_value.mp hy, scriptChars_of_isZero hy]
      | false =>
          refine iff_of_false (scriptChars_ne_zero hy).symm fun h => ?_
          rw [isZero_iff_value.mpr h.symm] at hy
          cases hy
  | false =>
      rw [value_eq_iff hx]
      refine ⟨fun h => ?_, fun h => congrArg scriptChars h⟩
      have hy : y.isZero = false := by
        by_contra hy
        rw [scriptChars_of_isZero ((Bool.not_eq_false _).mp hy)] at h
        exact scriptChars_ne_zero hx h
      have hhead : ∀ {z : Binary64} {cs : List Char}, z.sizeChars ≠ '-' :: cs := by
        intro z cs heq
        obtain ⟨c, ds, hcons, hc⟩ := z.writes_sizeChars.exists_head
        rw [heq, List.cons.injEq] at hcons
        rw [← hcons.1] at hc
        cases hc
      rw [scriptChars_eq, scriptChars_eq, if_neg (by simp [hx]), if_neg (by simp [hy]), signed,
        signed] at h
      have hsize : x.sizeChars = y.sizeChars → x.magnitude = y.magnitude := fun heq =>
        x.writes_sizeChars.magnitude_eq (heq ▸ y.writes_sizeChars)
      cases hsign : x.isNegative <;> cases hsign' : y.isNegative <;>
        simp only [hsign, hsign', Bool.false_eq_true, if_true, if_false, List.cons.injEq,
          true_and] at h
      · exact eq_of_sign_magnitude (hsign.trans hsign'.symm) (hsize h)
      · exact absurd h hhead
      · exact absurd h.symm hhead
      · exact eq_of_sign_magnitude (hsign.trans hsign'.symm) (hsize h)

end Binary64

end ControlPanel
