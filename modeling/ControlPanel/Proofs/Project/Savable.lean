import ControlPanel.Proofs.Document.Valid
import ControlPanel.Proofs.Project.Refusals
import ControlPanel.Preset

namespace ControlPanel

theorem Widget.brokenField?_named (id : WidgetId) (kind : WidgetKind) (name : String) :
    (named id kind name).brokenField? = none := by
  cases kind <;> rfl

theorem Preset.mem_all_of_find? {key : String} {p : Preset} (h : find? key = some p) : p ∈ all := by
  rw [find?] at h
  exact List.mem_of_find?_eq_some h

theorem Preset.brokenField?_instantiate {p : Preset} (hp : p ∈ all) (id : WidgetId) :
    (p.instantiate id).brokenField? = none := by
  simp only [all, List.mem_cons, List.not_mem_nil, or_false] at hp
  rcases hp with rfl | rfl | rfl | rfl | rfl <;> rfl

namespace Document

/-- The document can be saved and compiled: its identifiers are in order and its numbers finite. -/
def Savable (d : Document) : Prop :=
  d.ValidWith fun w => w.brokenField? = none

variable {d : Document}

theorem savable_iff :
    d.Savable ↔ d.validate = .ok () ∧ ∀ n ∈ d.numbers, n.value.isFinite = true := by
  rw [forall_numbers_iff]
  exact ⟨fun h => ⟨h.valid, h.good⟩, fun h => ⟨h.1, h.2⟩⟩

theorem Savable.save_eq (h : d.Savable) : d.save = .ok d.toJson.pretty :=
  save_eq_ok_iff.mpr ⟨h.valid, h.good, rfl⟩

theorem Savable.load_pretty (h : d.Savable) : load d.toJson.pretty = .ok d :=
  load_pretty_eq_ok_iff.mpr ⟨rfl, h.good, h.valid⟩

theorem Savable.exists_compile (h : d.Savable) (options : ScriptOptions) :
    ∃ script, d.compile options = .ok script :=
  (d.compile_verdict options).given_iff.mpr ⟨_, h.save_eq⟩

theorem savable_of_save {text : String} (h : d.save = .ok text) : d.Savable := by
  obtain ⟨hvalid, hgood, -⟩ := save_eq_ok_iff.mp h
  exact ⟨hvalid, hgood⟩

theorem savable_of_compile {options : ScriptOptions} {script : String}
    (h : d.compile options = .ok script) : d.Savable := by
  obtain ⟨text, hsave⟩ := (d.compile_verdict options).given_iff.mp ⟨script, h⟩
  exact savable_of_save hsave

end Document

end ControlPanel
