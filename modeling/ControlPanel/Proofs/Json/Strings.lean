import Mathlib
import ControlPanel.Proofs.Json.Grammar

namespace ControlPanel.Json

section Spaces

theorem spaces_skip (cs : List Char) : Spaces cs (skip cs) := by
  induction cs with
  | nil => exact .none []
  | cons c cs ih =>
      rw [skip, List.dropWhile_cons]
      split_ifs with hc
      · exact .more hc ih
      · exact .none _

/-- The text does not start with white space. -/
def NoSpaceHead (cs : List Char) : Prop :=
  ∀ c r, cs = c :: r → isSpace c = false

theorem skip_eq_of_spaces {cs rest : List Char} (h : Spaces cs rest) (hrest : NoSpaceHead rest) :
    skip cs = rest := by
  induction h with
  | none rest =>
      cases rest with
      | nil => rfl
      | cons c r => rw [skip, List.dropWhile_cons, if_neg (by simp [hrest c r rfl])]
  | more hc hcs ih =>
      rw [skip, List.dropWhile_cons, if_pos hc]
      exact ih hrest

theorem Spaces.length_le {cs rest : List Char} (h : Spaces cs rest) :
    rest.length ≤ cs.length := by
  induction h with
  | none rest => exact le_rfl
  | more hc hcs ih => exact ih.trans (Nat.le_succ _)

end Spaces

section Strings

theorem characters_of_stringRest {acc cs rest : List Char} {s : String}
    (h : stringRest acc cs = .ok (s, rest)) :
    ∃ vs, Characters cs vs rest ∧ s = String.ofList (acc.reverse ++ vs) := by
  fun_induction stringRest acc cs with
  | case2 acc cs =>
      cases h
      exact ⟨[], .close _, by simp⟩
  | case5 acc a b c d cs unit hunit hplain hne ih =>
      obtain ⟨vs, hcs, rfl⟩ := ih h
      exact ⟨_, .unit hunit hplain hcs, by simp⟩
  | case10 acc a b c d lead hlead hnotPlain hnotTrail a' b' c' d' cs trail htrail hrange hne ih =>
      obtain ⟨vs, hcs, rfl⟩ := ih h
      exact ⟨_, .pair hlead (by omega) htrail hrange hcs, by simp⟩
  | case16 acc e cs hnotUnit x hletter hne ih =>
      obtain ⟨vs, hcs, rfl⟩ := ih h
      exact ⟨_, .letter hletter hcs, by simp⟩
  | case19 acc c cs hquote hslash hcontrol ih =>
      obtain ⟨vs, hcs, rfl⟩ := ih h
      exact ⟨_, .plain hquote hslash (by omega) hcs, by simp⟩
  | _ => cases h

theorem letter?_ne_unit {e x : Char} (h : letter? e = some x) : e ≠ 'u' := by
  rintro rfl
  cases h

theorem stringRest_of_characters {cs vs rest : List Char} (h : Characters cs vs rest) :
    ∀ acc, stringRest acc cs = .ok (String.ofList (acc.reverse ++ vs), rest) := by
  induction h with
  | close rest =>
      intro acc
      rw [stringRest.eq_def]
      simp
  | plain hquote hslash hcontrol hcs ih =>
      intro acc
      rw [stringRest.eq_def]
      simp only [hquote, hslash, if_false, Nat.not_lt.mpr hcontrol]
      rw [ih]
      simp
  | letter he hcs ih =>
      intro acc
      rw [stringRest.eq_def]
      have := letter?_ne_unit he
      simp only [he]
      rw [ih]
      simp
  | unit hu hplain hcs ih =>
      intro acc
      rw [stringRest.eq_def]
      simp only [hu, hplain, if_true]
      rw [ih]
      simp
  | @pair _ _ _ _ _ _ _ _ lead trail _ _ _ hlead hleadRange htrail htrailRange hcs ih =>
      intro acc
      rw [stringRest.eq_def]
      have hnotPlain : ¬ (lead < 0xD800 ∨ 0xE000 ≤ lead) := by omega
      have hnotTrail : ¬ 0xDC00 ≤ lead := by omega
      simp only [hlead, htrail, htrailRange, hnotPlain, hnotTrail, and_self, if_true, if_false]
      rw [ih]
      simp

theorem Characters.length_lt {cs vs rest : List Char} (h : Characters cs vs rest) :
    rest.length < cs.length := by
  induction h <;> simp only [List.length_cons] <;> omega

end Strings

end ControlPanel.Json
