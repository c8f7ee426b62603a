import ControlPanel.Proofs.Text.Trim
import ControlPanel.Widget.Kind

namespace ControlPanel.WidgetKind

theorem ofTag?_eq_some_iff {tag : String} {kind : WidgetKind} :
    ofTag? tag = some kind ↔ tag = kind.name := by
  constructor
  · intro h
    have hfound := List.find?_some h
    exact (by simpa using hfound : kind.name = tag).symm
  · rintro rfl
    cases kind <;> rfl

theorem name_injective {k k' : WidgetKind} (h : k.name = k'.name) : k = k' := by
  have hk := ofTag?_eq_some_iff.mpr (rfl : k.name = k.name)
  exact Option.some.inj (hk.symm.trans (ofTag?_eq_some_iff.mpr h))

theorem name_letters (k : WidgetKind) : ∀ c ∈ k.name.toList, c.isAlpha = true := by
  rw [← List.all_eq_true]
  cases k <;> decide

/-- The text is the name of the kind but for the case of ASCII letters and white space around it. -/
def IsNamedBy (k : WidgetKind) (s : String) : Prop :=
  ∃ before core after, s = before ++ core ++ after ∧ Text.isBlank before = true ∧
    Text.isBlank after = true ∧ core.toList.map Char.toLower = k.name.toList.map Char.toLower

theorem isWhiteSpace_letter {c : Char} (hc : c.isAlpha = true) : Text.isWhiteSpace c = false := by
  simp only [Char.isAlpha, Char.isUpper, Char.isLower, ge_iff_le, UInt32.le_iff_toNat_le,
    Bool.or_eq_true, Bool.and_eq_true, decide_eq_true_eq] at hc
  have hupper : 'A'.val.toNat = 65 ∧ 'Z'.val.toNat = 90 := ⟨rfl, rfl⟩
  have hlower : 'a'.val.toNat = 97 ∧ 'z'.val.toNat = 122 := ⟨rfl, rfl⟩
  simp only [Text.isWhiteSpace, Text.inRanges, Text.whiteSpaceRanges, List.any_cons, List.any_nil,
    Bool.or_eq_false_iff, Bool.and_eq_false_iff, decide_eq_false_iff_not, and_true, Char.toNat]
  omega

theorem isTrimmed_of_name {k : WidgetKind} {s : String}
    (h : s.toList.map Char.toLower = k.name.toList.map Char.toLower) : Text.IsTrimmed s := by
  have hall : ∀ c ∈ s.toList, Text.isWhiteSpace c = false := by
    intro c hc
    have hlower : c.toLower ∈ k.name.toList.map Char.toLower := by
      rw [← h]
      exact List.mem_map_of_mem hc
    obtain ⟨letter, hletter, heq⟩ := List.mem_map.mp hlower
    refine isWhiteSpace_letter ?_
    rw [← Char.isAlpha_toLower_eq_isAlpha, ← heq, Char.isAlpha_toLower_eq_isAlpha]
    exact k.name_letters letter hletter
  exact ⟨fun c hc => hall c (List.mem_of_mem_head? hc),
    fun c hc => hall c (List.mem_of_mem_getLast? hc)⟩

theorem find?_sameIgnoringCase {k : WidgetKind} {s : String}
    (h : s.toList.map Char.toLower = k.name.toList.map Char.toLower) :
    (all.find? fun k => Text.sameIgnoringCase k.name s) = some k := by
  simp only [Text.sameIgnoringCase, h]
  cases k <;> rfl

theorem ofText_eq_ok_iff {s : String} {k : WidgetKind} : ofText s = .ok k ↔ k.IsNamedBy s := by
  rw [ofText]
  constructor
  · intro h
    obtain ⟨before, after, hs, hbefore, hafter⟩ := Text.exists_surrounding s
    refine ⟨before, Text.trim s, after, hs, hbefore, hafter, ?_⟩
    split_ifs at h with hempty
    cases hfind : all.find? fun k => Text.sameIgnoringCase k.name (Text.trim s) with
    | none =>
        rw [hfind] at h
        cases h
    | some j =>
        rw [hfind] at h
        cases h
        have hsame := List.find?_some hfind
        exact (eq_of_beq hsame).symm
  · rintro ⟨before, core, after, rfl, hbefore, hafter, hcore⟩
    have hne : core ≠ "" := by
      rintro rfl
      cases k <;> cases hcore
    rw [Text.trim_of_surrounded (isTrimmed_of_name hcore) hne hbefore hafter]
    simp only [if_neg hne, find?_sameIgnoringCase hcore]

end ControlPanel.WidgetKind
