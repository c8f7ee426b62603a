import ControlPanel.Proofs.Number.Shortest

namespace ControlPanel.Binary64

/-- A number that is the nearest to two values is the nearest to those between them. -/
theorem IsNearest.between {u v w : ℚ} {magnitude : Nat} (hu : IsNearest u magnitude)
    (hw : IsNearest w magnitude) (huv : u ≤ v) (hvw : v ≤ w) : IsNearest v magnitude := by
  obtain ⟨-, hlow⟩ := isNearest_iff.mp hu
  obtain ⟨⟨hhigh, hoddHigh⟩, -⟩ := isNearest_iff.mp hw
  refine isNearest_iff.mpr ⟨⟨hvw.trans hhigh, fun hodd => ?_⟩, fun n hn => ?_⟩
  · exact (hvw.trans_lt (lt_of_le_of_ne hhigh (hoddHigh hodd))).ne
  · obtain ⟨hle, hodd⟩ := hlow n hn
    exact ⟨hle.trans huv, fun h => ((lt_of_le_of_ne hle (hodd h).symm).trans_le huv).ne'⟩

theorem IsNearest.pos {v : ℚ} {magnitude : Nat} (h : IsNearest v magnitude)
    (hmagnitude : 0 < magnitude) : 0 < v := by
  obtain ⟨n, rfl⟩ : ∃ n, magnitude = n + 1 := ⟨magnitude - 1, by omega⟩
  have hstep := sizeAt_strictMono (Nat.lt_succ_self n)
  have hnonneg := sizeAt_nonneg n
  have hmiddle := h.middle_le
  rw [middle] at hmiddle
  simp only [Nat.succ_eq_add_one] at hstep
  linarith

/-- The test of a decimal is exact. -/
theorem readsBack_iff {x : Binary64} (hx : 0 < x.magnitude) {d : Decimal} :
    x.readsBack d = true ↔ IsNearest d.value x.magnitude := by
  refine ⟨isNearest_of_readsBack, fun h => ?_⟩
  obtain ⟨k, hmagnitude, -⟩ := x.exists_magnitude_eq
  obtain ⟨n, hn⟩ : ∃ n, n + 1 = x.magnitude := ⟨x.magnitude - 1, by omega⟩
  obtain ⟨⟨hhigh, hoddHigh⟩, hbelow⟩ := isNearest_iff.mp h
  obtain ⟨hlow, hoddLow⟩ := hbelow n hn
  have hparity : x.significand % 2 = 0 ∨ x.magnitude % 2 = 1 := by omega
  simp only [readsBack, Decimal.compareScaled_eq, Bool.and_eq_true, Bool.or_eq_true, beq_iff_eq,
    compare_gt_iff_gt, compare_lt_iff_lt, compare_eq_iff_eq, ← middle_magnitude,
    ← x.middle_below hn]
  rcases hparity with heven | hodd
  · exact ⟨hlow.lt_or_eq.imp_right fun h => ⟨heven, h.symm⟩,
      hhigh.lt_or_eq.imp_right fun h => ⟨heven, h⟩⟩
  · exact ⟨.inl (lt_of_le_of_ne hlow (hoddLow hodd).symm),
      .inl (lt_of_le_of_ne hhigh (hoddHigh hodd))⟩

end ControlPanel.Binary64
