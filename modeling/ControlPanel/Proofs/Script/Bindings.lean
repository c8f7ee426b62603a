import ControlPanel.Proofs.Project.Savable
import ControlPanel.Proofs.Script.Statements

namespace ControlPanel

open Script

namespace Script

section Declarations

@[simp] theorem ofText_ne (s text : String) : Token.ofText s ≠ .name text := by
  intro h
  cases h

end Declarations

end Script

namespace Document

variable {d : Document} {rs : List RegisteredTab}

/-- A tab with one button. -/
def page (index : Nat) : Tab where
  id := ⟨tabLocal index⟩
  name := "Page"
  widgets := [⟨⟨tabLocal index⟩, "Go", .button "go()"⟩]

def pages (n : Nat) : Document where
  tabs := (List.range n).map page

theorem savable_pages (n : Nat) : (pages n).Savable where
  valid := by
    have hblank : ∀ i, Text.isBlank (tabLocal i) = false := by
      intro i
      rw [Text.isBlank, toList_tabLocal]
      rfl
    -- Tabs and buttons have the same texts as identifiers, but each sort counts on its own.
    have hadmissible : ∀ {ι : Type} (text : ι → String) (f : Nat → ι),
        (∀ i, text (f i) = tabLocal i) → Admissible text [] ((List.range n).map f) := by
      intro ι text f hf
      refine ⟨?_, List.nodup_range.map fun i j h => ?_, by simp⟩
      · simp [hf, hblank]
      · exact targets_injective false ((hf i).symm.trans ((congrArg text h).trans (hf j)))
    have htabs : (pages n).tabIds = (List.range n).map fun i => ⟨tabLocal i⟩ := by
      simp [tabIds, pages, page]
    have hwidgets : (pages n).widgetIds = (List.range n).map fun i => ⟨tabLocal i⟩ := by
      simp only [widgetIds, widgets, pages, page, List.flatMap_map, ← List.map_eq_flatMap,
        List.map_map]
      rfl
    rw [validate_eq_ok_iff, htabs, hwidgets]
    exact ⟨hadmissible _ _ fun _ => rfl, hadmissible _ _ fun _ => rfl⟩
  good w hw := by
    simp only [widgets, pages, page, List.flatMap_map, List.mem_flatMap, List.mem_singleton] at hw
    obtain ⟨i, -, rfl⟩ := hw
    rfl

end Document

end ControlPanel
