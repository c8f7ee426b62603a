import ControlPanel.Project.Save
import ControlPanel.Proofs.Project.Load

namespace ControlPanel

open Json

@[simp] theorem holdsText_written {s t : String} : HoldsText (written (.text s)) t ↔ t = s := by
  simp [HoldsText, written, eq_comm]

@[simp] theorem holdsTextOrNull_written {s : String} {t : Option String} :
    HoldsTextOrNull (written (.text s)) t ↔ t = some s := by
  cases t <;> simp [HoldsTextOrNull, written, eq_comm]

@[simp] theorem holdsTruth_written {b c : Bool} : HoldsTruth (written (.bool b)) c ↔ c = b := by
  simp [HoldsTruth, written, eq_comm]

@[simp] theorem holdsNumber_written {x y : Binary64} :
    HoldsNumber (written (.real x)) y ↔ y = x ∧ x.isFinite := by
  by_cases hx : x.isFinite <;> simp [HoldsNumber, written, hx, eq_comm]

theorem holdsList_written {α : Type} {holds : Json → α → Prop} {toJson : α → Json}
    {good : α → Prop} {as bs : List α}
    (h : ∀ a b, holds (written (toJson a)) b ↔ b = a ∧ good a) :
    HoldsList holds (written (.array (as.map toJson))) bs ↔ bs = as ∧ ∀ a ∈ as, good a := by
  simp only [HoldsList, written_array, Json.array.injEq, exists_eq_left', List.map_map]
  induction as generalizing bs with
  | nil => simp
  | cons a as ih =>
      cases bs with
      | nil => simp
      | cons b bs =>
          simp only [List.map_cons, List.forall₂_cons, Function.comp_apply, h, ih,
            List.cons.injEq, List.forall_mem_cons]
          tauto

theorem holdsTexts_written {ss ts : List String} :
    HoldsList HoldsText (written (.array (ss.map .text))) ts ↔ ts = ss := by
  have htrue : ∀ s t : String, HoldsText (written (.text s)) t ↔ t = s ∧ True := by simp
  rw [holdsList_written htrue]
  simp

theorem ConfigurationSaving.held_written {c c' : ConfigurationSaving} :
    Held (written c.toJson) c' ↔ c' = c := by
  obtain ⟨enabled, folder, file⟩ := c
  obtain ⟨enabled', folder', file'⟩ := c'
  simp [Held, toJson, written_object, Required, last?, List.lookup]

theorem KeySettings.held_written {k k' : KeySettings} : Held (written k.toJson) k' ↔ k' = k := by
  obtain ⟨title, subtitle, note, file, save, grabbing, key⟩ := k
  obtain ⟨title', subtitle', note', file', save', grabbing', key'⟩ := k'
  simp [Held, toJson, written_object, Required, last?, List.lookup]

theorem Window.held_written {w w' : Window} : Held (written w.toJson) w' ↔ w' = w := by
  obtain ⟨name, title, subtitle, saving, system, key⟩ := w
  obtain ⟨name', title', subtitle', saving', system', key'⟩ := w'
  simp [Held, toJson, written_object, Required, Optional, last?, List.lookup,
    ConfigurationSaving.held_written, KeySettings.held_written]

theorem Slider.brokenField?_eq_none_iff {s : Slider} :
    s.brokenField? = none ↔ s.min.isFinite ∧ s.max.isFinite ∧ s.value.isFinite := by
  rw [brokenField?]
  cases s.min.isFinite <;> cases s.max.isFinite <;> cases s.value.isFinite <;> simp

/-- The members of a saved widget before those of its kind do not hide its tag. -/
theorem Widget.last?_type {w : Widget} {ms : List (String × Json)}
    (h : written w.toJson = .object ms) : last? "type" ms = some (.text w.kind.name) := by
  obtain ⟨id, name, control⟩ := w
  rw [toJson, written_object, Json.object.injEq] at h
  subst h
  cases control with
  | label color =>
      cases color <;> simp [Control.members, written, last?, List.lookup]
  | button | toggle | slider | input | paragraph | keybind | dropdown =>
      simp [Control.members, written, last?, List.lookup]

theorem Widget.Held.kind_eq {w w' : Widget} (h : Held (written w.toJson) w') :
    w'.kind = w.kind := by
  obtain ⟨ms, hms, ⟨v, hv, htag⟩, -⟩ := h
  rw [Widget.last?_type hms] at hv
  cases hv
  exact (WidgetKind.name_injective (Json.text.inj htag)).symm

theorem Widget.held_written {w w' : Widget} :
    Held (written w.toJson) w' ↔ w' = w ∧ w.brokenField? = none := by
  by_cases hkind : w'.kind = w.kind
  · obtain ⟨⟨id⟩, name, control⟩ := w
    obtain ⟨⟨id'⟩, name', control'⟩ := w'
    cases control with
    | slider s =>
        cases control' with
        | slider s' =>
            obtain ⟨min, max, value, suffix, body⟩ := s
            obtain ⟨min', max', value', suffix', body'⟩ := s'
            simp [Held, toJson, Control.members, written_object, Required, last?, List.lookup,
              Control.Held, Widget.kind, Control.kind, brokenField?,
              Slider.brokenField?_eq_none_iff]
            tauto
        | _ => cases hkind
    | label color =>
        cases control' <;> cases hkind
        cases color with
        | none =>
            simp [Held, toJson, Control.members, written_object, Required, Optional, last?,
              List.lookup, Control.Held, Widget.kind, Control.kind, brokenField?]
            rintro - - - key - (⟨rfl, -⟩ | ⟨rfl, -⟩ | ⟨rfl, -⟩) <;> decide
        | some color =>
            simp [Held, toJson, Control.members, written_object, Required, Optional, last?,
              List.lookup, Control.Held, Widget.kind, Control.kind, brokenField?]
    | dropdown options selected several body =>
        cases control' <;> cases hkind
        simp [Held, toJson, Control.members, written_object, Required, last?, List.lookup,
          Control.Held, Widget.kind, Control.kind, brokenField?, holdsTexts_written]
    | button | toggle | input | paragraph | keybind =>
        cases control' <;> cases hkind
        simp [Held, toJson, Control.members, written_object, Required, last?, List.lookup,
          Control.Held, Widget.kind, Control.kind, brokenField?]
  · apply iff_of_false (fun h => hkind h.kind_eq)
    rintro ⟨rfl, -⟩
    exact hkind rfl

theorem Tab.held_written {t t' : Tab} :
    Held (written t.toJson) t' ↔ t' = t ∧ ∀ w ∈ t.widgets, w.brokenField? = none := by
  obtain ⟨⟨id⟩, name, icon, widgets⟩ := t
  obtain ⟨⟨id'⟩, name', icon', widgets'⟩ := t'
  have hwidgets : HoldsList Widget.Held (written (.array (widgets.map Widget.toJson))) widgets' ↔
      widgets' = widgets ∧ ∀ w ∈ widgets, w.brokenField? = none :=
    holdsList_written fun _ _ => Widget.held_written
  simp [Held, toJson, written_object, Required, Optional, last?, List.lookup, hwidgets, and_assoc]

theorem Document.held_written {d d' : Document} :
    Held (written d.toJson) d' ↔ d' = d ∧ ∀ w ∈ d.widgets, w.brokenField? = none := by
  obtain ⟨window, tabs⟩ := d
  obtain ⟨window', tabs'⟩ := d'
  have htabs : HoldsList Tab.Held (written (.array (tabs.map Tab.toJson))) tabs' ↔
      tabs' = tabs ∧ ∀ t ∈ tabs, ∀ w ∈ t.widgets, w.brokenField? = none :=
    holdsList_written fun _ _ => Tab.held_written
  simp [Held, toJson, written_object, Required, last?, List.lookup, htabs, Window.held_written,
    Document.widgets, and_assoc]
  tauto

section Levels

theorem ConfigurationSaving.fits (levels : Nat) (c : ConfigurationSaving) :
    Fits (levels + 1) c.toJson := by
  simp [toJson, Fits]

theorem KeySettings.fits (levels : Nat) (k : KeySettings) : Fits (levels + 1) k.toJson := by
  simp [toJson, Fits]

theorem Window.fits (levels : Nat) (w : Window) : Fits (levels + 2) w.toJson := by
  simp [toJson, Fits, ConfigurationSaving.fits, KeySettings.fits]

theorem Widget.fits (levels : Nat) (w : Widget) : Fits (levels + 2) w.toJson := by
  obtain ⟨id, name, control⟩ := w
  cases control with
  | label color => cases color <;> simp [toJson, Control.members, Fits]
  | button | toggle | slider | input | paragraph | keybind | dropdown =>
      simp [toJson, Control.members, Fits]

theorem Tab.fits (levels : Nat) (t : Tab) : Fits (levels + 4) t.toJson := by
  simp [toJson, Fits, Widget.fits]

theorem Document.fits (levels : Nat) (d : Document) : Fits (levels + 6) d.toJson := by
  simp [toJson, Fits, Window.fits, Tab.fits]

end Levels

namespace Document

theorem textOf_toJson (d : Document) : TextOf (written d.toJson) d.toJson.pretty :=
  textOf_pretty (d.fits 121)

theorem noPlaces_window (w : Window) : Window.NoPlaces (written w.toJson) := by
  rw [Window.toJson, written_object]
  refine ⟨noArray_object _, ?_⟩
  rintro ms ⟨⟩ key hkey u hu
  rcases List.mem_pair.mp hkey with rfl | rfl
  · cases hu
    rw [ConfigurationSaving.toJson, written_object]
    exact noArray_object _
  · cases hu
    rw [KeySettings.toJson, written_object]
    exact noArray_object _

theorem noPlaces_tab (t : Tab) : Tab.NoPlaces (written t.toJson) := by
  rw [Tab.toJson, written_object]
  refine ⟨noArray_object _, ?_⟩
  rintro ms ⟨⟩ vs hvs u hu
  have hitems : written (.array (t.widgets.map Widget.toJson)) = .array vs := Option.some.inj hvs
  rw [written_array, Json.array.injEq] at hitems
  subst hitems
  simp only [List.map_map, List.mem_map] at hu
  obtain ⟨w, -, rfl⟩ := hu
  rw [Function.comp_apply, Widget.toJson, written_object]
  exact noArray_object _

/-- No record of a saved document is an array. -/
theorem noPlaces_written (d : Document) : NoPlaces (written d.toJson) := by
  rw [toJson, written_object]
  rintro ms ⟨⟩
  refine ⟨fun u hu => ?_, fun vs hvs u hu => ?_⟩
  · cases hu
    exact noPlaces_window d.window
  · have hitems : written (.array (d.tabs.map Tab.toJson)) = .array vs := Option.some.inj hvs
    rw [written_array, Json.array.injEq] at hitems
    subst hitems
    simp only [List.map_map, List.mem_map] at hu
    obtain ⟨t, -, rfl⟩ := hu
    exact noPlaces_tab t

theorem checkNumbers_eq_ok_iff {ws : List Widget} :
    checkNumbers ws = .ok () ↔ ∀ w ∈ ws, w.brokenField? = none := by
  induction ws with
  | nil => simp [checkNumbers]
  | cons w ws ih =>
      rw [checkNumbers, List.forall_mem_cons]
      cases w.brokenField? with
      | none => simp [ih]
      | some field => simp

theorem checkNumbers_eq_error {ws : List Widget} {e : ProjectError}
    (h : checkNumbers ws = .error e) : ∃ w f, e = .notFinite w f := by
  induction ws with
  | nil => cases h
  | cons w ws ih =>
      rw [checkNumbers] at h
      cases hbroken : w.brokenField? with
      | none =>
          rw [hbroken] at h
          exact ih h
      | some field =>
          rw [hbroken] at h
          cases h
          exact ⟨w.id, field, rfl⟩

theorem save_eq_ok_iff {d : Document} {s : String} :
    d.save = .ok s ↔
      d.validate = .ok () ∧ (∀ w ∈ d.widgets, w.brokenField? = none) ∧ s = d.toJson.pretty := by
  rw [save, ← checkNumbers_eq_ok_iff]
  cases d.validate with
  | error e => simp
  | ok u =>
      simp only [Outcome.bind_eq_ok_iff, Outcome.pure_eq_ok_iff, true_and]
      constructor
      · rintro ⟨u', h, hs⟩
        exact ⟨h, hs.symm⟩
      · rintro ⟨h, hs⟩
        exact ⟨(), h, hs.symm⟩

theorem save_eq_error {d : Document} {e : ProjectError} (h : d.save = .error e) :
    (∃ b, e = .invalid b) ∨ ∃ w f, e = .notFinite w f := by
  rw [save] at h
  cases hvalid : d.validate with
  | error b =>
      rw [hvalid] at h
      cases h
      exact .inl ⟨b, rfl⟩
  | ok u =>
      rw [hvalid] at h
      cases hnumbers : checkNumbers d.widgets with
      | error e' =>
          rw [hnumbers] at h
          cases h
          exact .inr (checkNumbers_eq_error hnumbers)
      | ok u =>
          rw [hnumbers] at h
          cases h

theorem load_pretty_eq_ok_iff {d d' : Document} :
    load d.toJson.pretty = .ok d' ↔
      d' = d ∧ (∀ w ∈ d.widgets, w.brokenField? = none) ∧ d.validate = .ok () := by
  obtain ⟨ms, hms⟩ : ∃ ms, written d.toJson = .object ms := ⟨_, by rw [toJson, written_object]⟩
  have htext := d.textOf_toJson
  have hplaces := d.noPlaces_written
  have hheld : Held (written d.toJson) d' ↔ _ := Document.held_written
  rw [hms] at htext hplaces hheld
  rw [load_eq_ok_iff htext hplaces, hheld, and_assoc]
  refine and_congr_right fun hd => ?_
  rw [hd]

/-- What is saved loads as the same document, and saving is refused exactly if the text that it
would give could not be loaded, for the identifiers or for a number that is not finite. -/
theorem save_load (d : Document) :
    (∀ t, d.save = .ok t → load t = .ok d) ∧
    ((∃ e, d.save = .error e) ↔ ∃ e, load d.toJson.pretty = .error e) ∧
    ∀ e, d.save = .error e → (∃ b, e = .invalid b) ∨ ∃ w f, e = .notFinite w f := by
  refine ⟨fun t ht => ?_, ?_, fun e => save_eq_error⟩
  · obtain ⟨hvalid, hnumbers, rfl⟩ := save_eq_ok_iff.mp ht
    exact load_pretty_eq_ok_iff.mpr ⟨rfl, hnumbers, hvalid⟩
  · rw [Outcome.exists_error_iff, Outcome.exists_error_iff, not_iff_not]
    constructor
    · rintro ⟨t, ht⟩
      obtain ⟨hvalid, hnumbers, -⟩ := save_eq_ok_iff.mp ht
      exact ⟨d, load_pretty_eq_ok_iff.mpr ⟨rfl, hnumbers, hvalid⟩⟩
    · rintro ⟨d', hd'⟩
      obtain ⟨-, hnumbers, hvalid⟩ := load_pretty_eq_ok_iff.mp hd'
      exact ⟨_, save_eq_ok_iff.mpr ⟨hvalid, hnumbers, rfl⟩⟩

/-- A slider at the negative zero beside labels without a color and with an empty one. -/
def zeroDocument : Document where
  tabs :=
    [{ id := ⟨"tab"⟩
       name := ""
       widgets :=
         [⟨⟨"slider"⟩, "", .slider ⟨⟨0x8000000000000000⟩, ⟨0⟩, ⟨0x8000000000000000⟩, "", ""⟩⟩,
          ⟨⟨"plain"⟩, "", .label none⟩, ⟨⟨"blank"⟩, "", .label (some "")⟩] }]

theorem save_load_zeroDocument : ∃ t, zeroDocument.save = .ok t ∧ load t = .ok zeroDocument := by
  have hsave : zeroDocument.save = .ok zeroDocument.toJson.pretty :=
    save_eq_ok_iff.mpr ⟨by decide, by decide +kernel, rfl⟩
  exact ⟨_, hsave, (save_load zeroDocument).1 _ hsave⟩

end Document

end ControlPanel
