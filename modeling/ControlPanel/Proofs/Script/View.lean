import ControlPanel.Proofs.Script.Faithful
import ControlPanel.Proofs.Script.Unambiguous

namespace ControlPanel

open Script Registration

/-- What a script shows of a control. -/
inductive ControlView where
  | button (body : String)
  | toggle (id : WidgetId) (state : Bool) (body : String)
  | slider (id : WidgetId) (min max value : ℚ) (suffix body : String)
  | input (id : WidgetId) (placeholder : String) (clearsOnFocusLoss : Bool) (body : String)
  | label (color : Option String)
  | paragraph (content : String)
  | keybind (id : WidgetId) (key : String) (mustHold : Bool) (body : String)
  | dropdown (id : WidgetId) (options : List String) (selected : String) (allowsSeveral : Bool)
      (body : String)

/-- What a script shows of a widget. -/
structure WidgetView where
  name : String
  control : ControlView

/-- What a script shows of a tab. -/
structure TabView where
  name : String
  icon : String
  widgets : List WidgetView

/-- What a script shows of a window: the settings of the key only if there is a key. -/
structure WindowView where
  name : String
  loadingTitle : String
  loadingSubtitle : String
  configurationSaving : ConfigurationSaving
  keySystem : Bool
  keySettings : Option KeySettings

/-- What a script shows of a document. -/
structure DocumentView where
  window : WindowView
  tabs : List TabView

/-- The color of a label, unless it is blank. -/
def shownColor : Option String → Option String
  | some color => if Text.isBlank color then none else some color
  | none => none

def Control.view (id : WidgetId) : Control → ControlView
  | .button body => .button (shownBody body)
  | .toggle state body => .toggle id state (shownBody body)
  | .slider s => .slider id s.min.value s.max.value s.value.value s.suffix (shownBody s.callback)
  | .input placeholder clears body => .input id placeholder clears (shownBody body)
  | .label color => .label (shownColor color)
  | .paragraph content => .paragraph content
  | .keybind key mustHold body => .keybind id key mustHold (shownBody body)
  | .dropdown options selected several body =>
    .dropdown id options selected several (shownBody body)

def Widget.view (w : Widget) : WidgetView where
  name := w.name
  control := w.control.view w.id

def Tab.view (t : Tab) : TabView where
  name := t.name
  icon := Text.trim t.icon
  widgets := t.widgets.map Widget.view

def Window.view (w : Window) : WindowView where
  name := w.name
  loadingTitle := w.loadingTitle
  loadingSubtitle := w.loadingSubtitle
  configurationSaving := w.configurationSaving
  keySystem := w.keySystem
  keySettings := if w.keySystem then some w.keySettings else none

def Document.view (d : Document) : DocumentView where
  window := d.window.view
  tabs := d.tabs.map Tab.view

namespace Script

section Congruence

theorem labelColor_congr {a b : Option String} (h : shownColor a = shownColor b) :
    labelColor a = labelColor b := by
  have hshown : ∀ color, labelColor color = labelColor (shownColor color) := by
    intro color
    cases color with
    | none => rfl
    | some c =>
        rw [shownColor]
        split_ifs with hblank
        · rw [labelColor, if_pos hblank]
          rfl
        · rfl
  rw [hshown a, hshown b, h]

theorem sliderFields_congr {id : WidgetId} {name : String} {s s' : Slider} {fields fields' : String}
    (hs : sliderFields id name s = .ok fields) (hs' : sliderFields id name s' = .ok fields')
    (hmin : s.min.value = s'.min.value) (hmax : s.max.value = s'.max.value)
    (hvalue : s.value.value = s'.value.value) (hsuffix : s.suffix = s'.suffix)
    (hbody : shownBody s.callback = shownBody s'.callback) : fields = fields' := by
  rw [sliderFields_eq_ok hs, sliderFields_eq_ok hs', Binary64.scriptChars_eq_iff.mpr hmin,
    Binary64.scriptChars_eq_iff.mpr hmax, Binary64.scriptChars_eq_iff.mpr hvalue, hsuffix,
    callback_congr hbody]

theorem kind_of_view {id id' : WidgetId} {c c' : Control} (h : c.view id = c'.view id') :
    c.kind = c'.kind := by
  cases c <;> cases c' <;> first | rfl | cases h

theorem registration_congr {tab text text' : String} {w v : Widget} (h : w.view = v.view)
    (hw : w.registration tab = .ok text) (hv : v.registration tab = .ok text') : text = text' := by
  obtain ⟨id, name, control⟩ := w
  obtain ⟨id', name', control'⟩ := v
  obtain ⟨rfl, hcontrol⟩ := WidgetView.mk.inj h
  have hkind := kind_of_view hcontrol
  rw [Widget.registration] at hw hv
  cases control <;> cases control' <;> cases hkind
  case button.button body body' =>
    cases hw
    cases hv
    rw [callback_congr (ControlView.button.inj hcontrol)]
  case toggle.toggle state body state' body' =>
    cases hw
    cases hv
    obtain ⟨rfl, rfl, hbody⟩ := ControlView.toggle.inj hcontrol
    rw [callback_congr hbody]
  case slider.slider s s' =>
    obtain ⟨fields, hfields, htext⟩ := Outcome.bind_eq_ok_iff.mp hw
    obtain ⟨fields', hfields', htext'⟩ := Outcome.bind_eq_ok_iff.mp hv
    cases htext
    cases htext'
    obtain ⟨rfl, hmin, hmax, hvalue, hsuffix, hbody⟩ := ControlView.slider.inj hcontrol
    rw [sliderFields_congr hfields hfields' hmin hmax hvalue hsuffix hbody]
  case input.input placeholder clears body placeholder' clears' body' =>
    cases hw
    cases hv
    obtain ⟨rfl, rfl, rfl, hbody⟩ := ControlView.input.inj hcontrol
    rw [callback_congr hbody]
  case label.label color color' =>
    cases hw
    cases hv
    rw [labelColor_congr (ControlView.label.inj hcontrol)]
  case paragraph.paragraph content content' =>
    cases hw
    cases hv
    rw [ControlView.paragraph.inj hcontrol]
  case keybind.keybind key mustHold body key' mustHold' body' =>
    cases hw
    cases hv
    obtain ⟨rfl, rfl, rfl, hbody⟩ := ControlView.keybind.inj hcontrol
    rw [callback_congr hbody]
  case dropdown.dropdown options selected several body options' selected' several' body' =>
    cases hw
    cases hv
    obtain ⟨rfl, rfl, rfl, rfl, hbody⟩ := ControlView.dropdown.inj hcontrol
    rw [callback_congr hbody]

theorem registrations_congr {tab text text' : String} {ws vs : List Widget}
    (h : ws.map Widget.view = vs.map Widget.view) (hws : registrations tab ws = .ok text)
    (hvs : registrations tab vs = .ok text') : text = text' := by
  induction ws generalizing vs text text' with
  | nil =>
      obtain rfl := List.map_eq_nil_iff.mp h.symm
      exact Except.ok.inj (hws.symm.trans hvs)
  | cons w ws ih =>
      cases vs with
      | nil => cases h
      | cons v vs =>
          simp only [registrations, Outcome.bind_eq_ok_iff, Outcome.pure_eq_ok_iff] at hws hvs
          obtain ⟨first, hfirst, rest, hrest, rfl⟩ := hws
          obtain ⟨first', hfirst', rest', hrest', rfl⟩ := hvs
          obtain ⟨hhead, htail⟩ := List.cons.inj h
          rw [registration_congr hhead hfirst hfirst', ih htail hrest hrest']

theorem tabStatement_congr {declare : Bool} {tab : String} {t u : Tab} (hname : t.name = u.name)
    (hicon : Text.trim t.icon = Text.trim u.icon) :
    tabStatement declare tab t = tabStatement declare tab u := by
  rw [tabStatement, tabStatement, iconArgument, iconArgument, hname, hicon]

theorem tabs_congr {tabled : Bool} {index : Nat} {text text' : String} {ts us : List Tab}
    (h : ts.map Tab.view = us.map Tab.view) (hts : tabs tabled index ts = .ok text)
    (hus : tabs tabled index us = .ok text') : text = text' := by
  induction ts generalizing index us text text' with
  | nil =>
      obtain rfl := List.map_eq_nil_iff.mp h.symm
      exact Except.ok.inj (hts.symm.trans hus)
  | cons t ts ih =>
      cases us with
      | nil => cases h
      | cons u us =>
          simp only [tabs, Outcome.bind_eq_ok_iff, Outcome.pure_eq_ok_iff] at hts hus
          obtain ⟨widgets, hwidgets, rest, hrest, rfl⟩ := hts
          obtain ⟨widgets', hwidgets', rest', hrest', rfl⟩ := hus
          obtain ⟨hhead, htail⟩ := List.cons.inj h
          obtain ⟨hname, hicon, hviews⟩ := TabView.mk.inj hhead
          rw [tabStatement_congr hname hicon, registrations_congr hviews hwidgets hwidgets',
            ih htail hrest hrest']

theorem header_congr {w v : Window} (h : w.view = v.view) (options : ScriptOptions) :
    header w options = header v options := by
  obtain ⟨hname, htitle, hsubtitle, hsaving, hsystem, hkey⟩ := WindowView.mk.inj h
  have hkeys : (if w.keySystem then keyTable w.keySettings else "") =
      if v.keySystem then keyTable v.keySettings else "" := by
    rw [← hsystem] at hkey ⊢
    split_ifs at hkey ⊢
    · rw [Option.some.inj hkey]
    · rfl
  unfold header
  rw [hname, htitle, hsubtitle, hsaving, hsystem, ← hkeys, ← hsystem]

end Congruence

end Script

end ControlPanel
