import Mathlib

namespace ControlPanel

/-- Digits only. -/
def AllDigits (ds : List Char) : Prop :=
  ∀ c ∈ ds, c.isDigit = true

/-- At least one digit, without superfluous zeros in front. -/
inductive Whole : List Char → Prop
  | zero : Whole ['0']
  | digits {c : Char} {cs : List Char} (hc : c.isDigit = true) (hne : c ≠ '0')
      (hcs : AllDigits cs) : Whole (c :: cs)

theorem AllDigits.append {ds es : List Char} (hds : AllDigits ds) (hes : AllDigits es) :
    AllDigits (ds ++ es) := by
  intro c hc
  rcases List.mem_append.mp hc with h | h
  · exact hds c h
  · exact hes c h

theorem allDigits_replicate_zero (n : Nat) : AllDigits (List.replicate n '0') := by
  intro c hc
  rw [List.eq_of_mem_replicate hc]
  rfl

theorem allDigits_toDigits (n : Nat) : AllDigits (Nat.toDigits 10 n) :=
  fun _ hc => Nat.isDigit_of_mem_toDigits (by norm_num) (by norm_num) hc

theorem toList_toString (n : Nat) : (toString n).toList = Nat.toDigits 10 n := by
  simp [toString, Nat.repr]

theorem Whole.allDigits {ds : List Char} (h : Whole ds) : AllDigits ds := by
  cases h with
  | zero => simp [AllDigits]
  | digits hc _ hcs =>
      intro c hmem
      rcases List.mem_cons.mp hmem with rfl | hmem
      · exact hc
      · exact hcs c hmem

/-- The digits of a positive number start with another digit than zero. -/
theorem exists_toDigits_eq_cons {n : Nat} (hn : 0 < n) :
    ∃ c cs, Nat.toDigits 10 n = c :: cs ∧ c.isDigit = true ∧ c ≠ '0' ∧ AllDigits cs := by
  induction n using Nat.strong_induction_on with
  | h n ih =>
      have hall := allDigits_toDigits n
      rw [Nat.toDigits_eq_if (by norm_num)] at hall ⊢
      split_ifs at hall ⊢ with hsmall
      · refine ⟨_, _, rfl, hall _ (by simp), ?_, by simp [AllDigits]⟩
        interval_cases n <;> decide
      · obtain ⟨c, cs, hcons, hc, hne, hcs⟩ := ih (n / 10) (by omega) (by omega)
        rw [hcons] at hall ⊢
        refine ⟨c, _, List.cons_append, hc, hne, fun d hd => hall d ?_⟩
        simp only [List.cons_append, List.mem_cons]
        exact .inr hd

theorem whole_toDigits (n : Nat) : Whole (Nat.toDigits 10 n) := by
  rcases Nat.eq_zero_or_pos n with rfl | hn
  · exact .zero
  · obtain ⟨c, cs, hcons, hc, hne, hcs⟩ := exists_toDigits_eq_cons hn
    rw [hcons]
    exact .digits hc hne hcs

theorem getLast?_toDigits (n : Nat) :
    (Nat.toDigits 10 n).getLast? = some (Nat.digitChar (n % 10)) := by
  rw [Nat.toDigits_eq_if (by norm_num)]
  split_ifs with hsmall
  · rw [Nat.mod_eq_of_lt hsmall]
    rfl
  · rw [List.getLast?_append]
    rfl

theorem digitChar_ne_zero {d : Nat} (hpos : d ≠ 0) (hd : d < 10) : Nat.digitChar d ≠ '0' := by
  interval_cases d
  · exact absurd rfl hpos
  all_goals decide

end ControlPanel
