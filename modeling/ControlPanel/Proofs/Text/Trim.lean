import Mathlib
import ControlPanel.Text.Blank

namespace ControlPanel.Text

/-- No white space stands at either end of the text. -/
structure IsTrimmed (s : String) : Prop where
  starts : ∀ c ∈ s.toList.head?, isWhiteSpace c = false
  ends : ∀ c ∈ s.toList.getLast?, isWhiteSpace c = false

theorem dropWhile_of_head {cs : List Char} (h : ∀ c ∈ cs.head?, isWhiteSpace c = false) :
    cs.dropWhile isWhiteSpace = cs := by
  cases cs with
  | nil => rfl
  | cons c cs => exact List.dropWhile_cons_of_neg (by simp [h c rfl])

theorem head_of_dropWhile (cs : List Char) :
    ∀ c ∈ (cs.dropWhile isWhiteSpace).head?, isWhiteSpace c = false := by
  intro c hc
  have h := List.head?_dropWhile_not isWhiteSpace cs
  rw [hc] at h
  exact h

theorem trim_of_surrounded {before core after : String} (hcore : IsTrimmed core) (hne : core ≠ "")
    (hbefore : isBlank before = true) (hafter : isBlank after = true) :
    trim (before ++ core ++ after) = core := by
  have hlist : core.toList ≠ [] := by simpa using hne
  have hstart : (core.toList ++ after.toList).dropWhile isWhiteSpace =
      core.toList ++ after.toList := by
    apply dropWhile_of_head
    rw [List.head?_append_of_ne_nil _ hlist]
    exact hcore.starts
  have hend : core.toList.reverse.dropWhile isWhiteSpace = core.toList.reverse := by
    apply dropWhile_of_head
    rw [List.head?_reverse]
    exact hcore.ends
  have hafter' : ∀ c ∈ after.toList.reverse, isWhiteSpace c = true := by
    simpa [isBlank] using hafter
  rw [trim, trimChars, String.toList_append, String.toList_append, List.append_assoc,
    List.dropWhile_append_of_pos (List.all_eq_true.mp hbefore), hstart, List.reverse_append,
    List.dropWhile_append_of_pos hafter', hend, List.reverse_reverse, String.ofList_toList]

theorem isTrimmed_trim (s : String) : IsTrimmed (trim s) where
  starts c hc := by
    rw [trim, String.toList_ofList, trimChars] at hc
    -- What is left is the front part of what starts with another character.
    obtain ⟨rest, hrest⟩ :
        ((s.toList.dropWhile isWhiteSpace).reverse.dropWhile isWhiteSpace).reverse <+:
          s.toList.dropWhile isWhiteSpace := by
      rw [← List.reverse_suffix, List.reverse_reverse]
      exact List.dropWhile_suffix _
    refine head_of_dropWhile s.toList c ?_
    rw [← hrest, List.head?_append, hc]
    rfl
  ends c hc := by
    rw [trim, String.toList_ofList, trimChars, List.getLast?_reverse] at hc
    exact head_of_dropWhile _ c hc

theorem trim_eq_self_iff {s : String} : trim s = s ↔ IsTrimmed s := by
  constructor
  · intro h
    rw [← h]
    exact isTrimmed_trim s
  · intro h
    by_cases hne : s = ""
    · subst hne
      rfl
    · simpa using @trim_of_surrounded "" s "" h hne rfl rfl

theorem exists_surrounding (s : String) :
    ∃ before after, s = before ++ trim s ++ after ∧ isBlank before = true ∧
      isBlank after = true := by
  have hstart := List.takeWhile_append_dropWhile (p := isWhiteSpace) (l := s.toList)
  have hend := List.takeWhile_append_dropWhile (p := isWhiteSpace)
    (l := (s.toList.dropWhile isWhiteSpace).reverse)
  refine ⟨String.ofList (s.toList.takeWhile isWhiteSpace),
    String.ofList ((s.toList.dropWhile isWhiteSpace).reverse.takeWhile isWhiteSpace).reverse,
    ?_, ?_, ?_⟩
  · rw [← String.toList_inj, String.toList_append, String.toList_append, trim, trimChars,
      String.toList_ofList, String.toList_ofList, String.toList_ofList, List.append_assoc,
      ← List.reverse_append, hend, List.reverse_reverse, hstart]
  · rw [isBlank, String.toList_ofList]
    exact List.all_takeWhile
  · rw [isBlank, String.toList_ofList, List.all_reverse]
    exact List.all_takeWhile

/-- A text is blank exactly if nothing is left of it. -/
theorem isBlank_iff_trim {s : String} : isBlank s = true ↔ trim s = "" := by
  rw [trim, String.ofList_eq_empty_iff, trimChars, List.reverse_eq_nil_iff,
    List.dropWhile_eq_nil_iff, isBlank, List.all_eq_true]
  constructor
  · intro h c hc
    exact h c ((List.dropWhile_suffix _).mem (List.mem_reverse.mp hc))
  · intro h c hc
    rw [← List.takeWhile_append_dropWhile (p := isWhiteSpace) (l := s.toList),
      List.mem_append] at hc
    rcases hc with hc | hc
    · exact List.mem_takeWhile_imp hc
    · exact h c (List.mem_reverse.mpr hc)

end ControlPanel.Text
