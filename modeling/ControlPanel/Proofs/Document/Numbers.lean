import ControlPanel.Proofs.Project.RoundTrip

namespace ControlPanel

/-- A number of a slider and the place where it stands. -/
structure SliderNumber where
  widget : WidgetId
  field : SliderField
  value : Binary64
deriving DecidableEq, Repr

/-- The numbers of a widget. Only sliders have some. -/
def Widget.numbers (w : Widget) : List SliderNumber :=
  match w.control with
  | .slider s => [⟨w.id, .min, s.min⟩, ⟨w.id, .max, s.max⟩, ⟨w.id, .value, s.value⟩]
  | _ => []

/-- All numbers, slider by slider. -/
def Document.numbers (d : Document) : List SliderNumber :=
  d.widgets.flatMap Widget.numbers

def SliderNumber.isBroken (n : SliderNumber) : Bool :=
  !n.value.isFinite

theorem Widget.find?_numbers (w : Widget) :
    (w.numbers.find? SliderNumber.isBroken = none ∧ w.brokenField? = none) ∨
      ∃ f x, w.numbers.find? SliderNumber.isBroken = some ⟨w.id, f, x⟩ ∧
        w.brokenField? = some f := by
  obtain ⟨id, name, control⟩ := w
  cases control with
  | slider s =>
      simp only [numbers, brokenField?, Slider.brokenField?, List.find?, SliderNumber.isBroken]
      cases s.min.isFinite <;> cases s.max.isFinite <;> cases s.value.isFinite <;> simp
  | button | toggle | input | label | paragraph | keybind | dropdown =>
      exact .inl ⟨rfl, rfl⟩

/-- The check reports the first number that is not finite. -/
theorem checkNumbers_eq_find? (ws : List Widget) :
    checkNumbers ws =
      match (ws.flatMap Widget.numbers).find? SliderNumber.isBroken with
      | some n => .error (.notFinite n.widget n.field)
      | none => .ok () := by
  induction ws with
  | nil => rfl
  | cons w ws ih =>
      rw [checkNumbers, List.flatMap_cons, List.find?_append]
      rcases w.find?_numbers with ⟨hfind, hbroken⟩ | ⟨f, x, hfind, hbroken⟩
      · rw [hfind, hbroken, Option.none_or]
        exact ih
      · rw [hfind, hbroken, Option.some_or]

theorem Widget.brokenField?_eq_none_iff {w : Widget} :
    w.brokenField? = none ↔ ∀ n ∈ w.numbers, n.value.isFinite = true := by
  obtain ⟨id, name, control⟩ := w
  cases control with
  | slider s => simp [brokenField?, numbers, Slider.brokenField?_eq_none_iff]
  | button | toggle | input | label | paragraph | keybind | dropdown =>
      simp [brokenField?, numbers]

theorem Document.forall_numbers_iff {d : Document} :
    (∀ n ∈ d.numbers, n.value.isFinite = true) ↔ ∀ w ∈ d.widgets, w.brokenField? = none := by
  simp only [numbers, List.mem_flatMap, Widget.brokenField?_eq_none_iff]
  constructor
  · intro h w hw n hn
    exact h n ⟨w, hw, hn⟩
  · rintro h n ⟨w, hw, hn⟩
    exact h w hw n hn

end ControlPanel
