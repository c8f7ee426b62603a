import ControlPanel.Proofs.Document.Numbers
import ControlPanel.Script.Compile

/-!
The script comes to the numbers tab by tab, while it writes; the check before saving takes all
widgets at once.
-/

namespace ControlPanel

open Script Registration

/-- Compiling and saving both give something, or are refused for the same reason. -/
inductive SameVerdict {α β : Type} : Except ScriptError α → Except ProjectError β → Prop
  | given (a : α) (b : β) : SameVerdict (.ok a) (.ok b)
  | notFinite (w : WidgetId) (f : SliderField) :
      SameVerdict (.error (.notFinite w .slider f)) (.error (.notFinite w f))
  | invalid (e : DocumentError) : SameVerdict (.error (.invalidDocument e)) (.error (.invalid e))

section

variable {α β γ δ : Type} {x : Except ScriptError α} {y : Except ProjectError β}

theorem SameVerdict.bind {f : α → Except ScriptError γ} {g : β → Except ProjectError δ}
    (h : SameVerdict x y) (hnext : ∀ a b, SameVerdict (f a) (g b)) :
    SameVerdict (x >>= f) (y >>= g) := by
  cases h with
  | given a b => exact hnext a b
  | notFinite w field => exact .notFinite w field
  | invalid e => exact .invalid e

theorem SameVerdict.given_iff (h : SameVerdict x y) :
    (∃ a, x = .ok a) ↔ ∃ b, y = .ok b := by
  cases h <;> simp

theorem SameVerdict.notFinite_iff (h : SameVerdict x y) (w : WidgetId) (f : SliderField) :
    x = .error (.notFinite w .slider f) ↔ y = .error (.notFinite w f) := by
  cases h <;> simp

theorem SameVerdict.invalid_iff (h : SameVerdict x y) (e : DocumentError) :
    x = .error (.invalidDocument e) ↔ y = .error (.invalid e) := by
  cases h <;> simp

end

theorem sliderNumber_of_finite {id : WidgetId} {field : SliderField} {x : Binary64}
    (hx : x.isFinite = true) :
    sliderNumber id field x = .ok (String.ofList x.scriptChars) := by
  rw [sliderNumber, Literal.number, if_pos hx]

theorem sliderNumber_of_broken {id : WidgetId} {field : SliderField} {x : Binary64}
    (hx : ¬ x.isFinite = true) :
    sliderNumber id field x = .error (.notFinite id .slider field) := by
  rw [sliderNumber, Literal.number, if_neg hx]

/-- The three numbers are looked at in the order of the check before saving, and the increment is
always finite. -/
theorem sliderFields_verdict (id : WidgetId) (name : String) (s : Slider) :
    SameVerdict (sliderFields id name s) (checkNumbers [⟨id, name, .slider s⟩]) := by
  have hbroken : Widget.brokenField? ⟨id, name, .slider s⟩ = s.brokenField? := rfl
  rw [checkNumbers, hbroken, Slider.brokenField?, sliderFields]
  by_cases hmin : s.min.isFinite = true
  · by_cases hmax : s.max.isFinite = true
    · by_cases hvalue : s.value.isFinite = true
      · have hincrement : sliderIncrement.isFinite = true := by decide
        rw [sliderNumber_of_finite hmin, sliderNumber_of_finite hmax,
          sliderNumber_of_finite hvalue, sliderNumber_of_finite hincrement]
        simp only [hmin, hmax, hvalue]
        exact .given _ _
      · rw [sliderNumber_of_finite hmin, sliderNumber_of_finite hmax,
          sliderNumber_of_broken hvalue]
        simp only [hmin, hmax, hvalue]
        exact .notFinite _ _
    · rw [sliderNumber_of_finite hmin, sliderNumber_of_broken hmax]
      simp only [hmin, hmax]
      exact .notFinite _ _
  · rw [sliderNumber_of_broken hmin]
    simp only [hmin]
    exact .notFinite _ _

theorem registration_verdict (tab : String) (w : Widget) :
    SameVerdict (w.registration tab) (checkNumbers [w]) := by
  obtain ⟨id, name, control⟩ := w
  rw [Widget.registration]
  cases control with
  | slider s =>
      have h := (sliderFields_verdict id name s).bind (f := fun fields =>
        pure (call tab "CreateSlider" fields)) (g := pure) fun _ b => .given _ b
      simpa using h
  | button | toggle | input | label | paragraph | keybind | dropdown => exact .given _ _

theorem checkNumbers_append (ws vs : List Widget) :
    checkNumbers (ws ++ vs) = checkNumbers ws >>= fun _ => checkNumbers vs := by
  induction ws with
  | nil => rfl
  | cons w ws ih =>
      rw [List.cons_append, checkNumbers, checkNumbers, ih]
      cases w.brokenField? <;> rfl

theorem registrations_verdict (tab : String) (ws : List Widget) :
    SameVerdict (registrations tab ws) (checkNumbers ws) := by
  induction ws with
  | nil => exact .given _ _
  | cons w ws ih =>
      rw [← List.singleton_append, checkNumbers_append, List.singleton_append]
      refine (registration_verdict tab w).bind fun first _ => ?_
      simpa using ih.bind (f := fun rest => pure ("\n" ++ first ++ rest)) (g := pure)
        fun _ b => .given _ b

theorem tabs_verdict (tabled : Bool) (index : Nat) (ts : List Tab) :
    SameVerdict (Script.tabs tabled index ts) (checkNumbers (ts.flatMap Tab.widgets)) := by
  induction ts generalizing index with
  | nil => exact .given _ _
  | cons t ts ih =>
      rw [List.flatMap_cons, checkNumbers_append]
      refine (registrations_verdict (target tabled index) t.widgets).bind fun widgets _ => ?_
      simpa using (ih (index + 1)).bind (f := fun rest => pure ("\n" ++
        tabStatement (!tabled) (target tabled index) t ++ widgets ++ rest)) (g := pure)
        fun _ b => .given _ b

namespace Document

theorem exists_slider_of_find? {d : Document} {n : SliderNumber}
    (h : d.numbers.find? SliderNumber.isBroken = some n) :
    ∃ v ∈ d.widgets, v.id = n.widget ∧ v.kind = .slider := by
  obtain ⟨v, hv, hn⟩ := List.mem_flatMap.mp (List.mem_of_find?_eq_some h)
  refine ⟨v, hv, ?_⟩
  obtain ⟨id, name, control⟩ := v
  cases control with
  | slider s =>
      simp only [Widget.numbers, List.mem_cons, List.not_mem_nil, or_false] at hn
      rcases hn with rfl | rfl | rfl <;> exact ⟨rfl, rfl⟩
  | button | toggle | input | label | paragraph | keybind | dropdown => cases hn

theorem exists_broken_of_save {d : Document} {w : WidgetId} {f : SliderField}
    (h : d.save = .error (.notFinite w f)) :
    ∃ x, d.numbers.find? SliderNumber.isBroken = some ⟨w, f, x⟩ := by
  rw [save] at h
  cases hvalid : d.validate with
  | error e =>
      rw [hvalid] at h
      cases h
  | ok u =>
      rw [hvalid, checkNumbers_eq_find?] at h
      cases hfind : (d.widgets.flatMap Widget.numbers).find? SliderNumber.isBroken with
      | none =>
          rw [hfind] at h
          cases h
      | some n =>
          rw [hfind] at h
          cases h
          exact ⟨n.value, hfind⟩

theorem compile_verdict (d : Document) (options : ScriptOptions) :
    SameVerdict (d.compile options) d.save := by
  rw [compile, save]
  cases d.validate with
  | error e => exact .invalid e
  | ok u => exact (tabs_verdict d.isTabled 0 d.tabs).bind fun _ _ => .given _ _

/-- Compiling is refused exactly if saving is, and for the same reason: the first thing that is
wrong with the identifiers or, if nothing is, the first number of a slider that is not finite. -/
theorem compile_refused_as_save (d : Document) (options : ScriptOptions) :
    ((∃ script, d.compile options = .ok script) ↔ ∃ text, d.save = .ok text) ∧
    (∀ e, d.compile options = .error (.invalidDocument e) ↔ d.save = .error (.invalid e)) ∧
    (∀ w f, d.compile options = .error (.notFinite w .slider f) ↔
      d.save = .error (.notFinite w f)) ∧
    ∀ w f, d.save = .error (.notFinite w f) →
      (∃ v ∈ d.widgets, v.id = w ∧ v.kind = .slider) ∧
        ∃ x, d.numbers.find? SliderNumber.isBroken = some ⟨w, f, x⟩ := by
  have hverdict := d.compile_verdict options
  refine ⟨hverdict.given_iff, hverdict.invalid_iff, hverdict.notFinite_iff, fun w f h => ?_⟩
  obtain ⟨x, hx⟩ := exists_broken_of_save h
  exact ⟨exists_slider_of_find? hx, x, hx⟩

end Document

end ControlPanel
