import ControlPanel.Proofs.Project.Fields
import ControlPanel.Proofs.Widget.Kind

namespace ControlPanel

open Json

theorem ConfigurationSaving.reads {v : Json} (hv : NoArray v) :
    Reads ConfigurationSaving.ofJson ConfigurationSaving.Held v := by
  intro c
  rw [ConfigurationSaving.ofJson, ConfigurationSaving.Held]
  refine (record_eq_ok_iff hv ?_).trans ?_
  · intro ms h
    simp only [Outcome.bind_eq_ok_iff] at h
    obtain ⟨_, henabled, _, hfolder, _, hfile, _⟩ := h
    simp only [forms, List.forall_mem_cons]
    exact ⟨fits_of_get henabled, fits_of_get hfolder, fits_of_get hfile, List.forall_mem_nil _⟩
  · simp only [Outcome.bind_eq_ok_iff, Outcome.pure_eq_ok_iff, get_text, get_truth, finish_recordOf,
      true_and, exists_const]
    constructor
    · rintro ⟨ms, rfl, _, henabled, _, hfolder, _, hfile, rfl⟩
      exact ⟨ms, rfl, henabled, hfolder, hfile⟩
    · rintro ⟨ms, rfl, henabled, hfolder, hfile⟩
      exact ⟨ms, rfl, _, henabled, _, hfolder, _, hfile, rfl⟩

theorem KeySettings.reads {v : Json} (hv : NoArray v) :
    Reads KeySettings.ofJson KeySettings.Held v := by
  intro k
  rw [KeySettings.ofJson, KeySettings.Held]
  refine (record_eq_ok_iff hv ?_).trans ?_
  · intro ms h
    simp only [Outcome.bind_eq_ok_iff] at h
    obtain ⟨_, htitle, _, hsubtitle, _, hnote, _, hfile, _, hsave, _, hgrabbing, _, hkey, _⟩ := h
    simp only [forms, List.forall_mem_cons]
    exact ⟨fits_of_get htitle, fits_of_get hsubtitle, fits_of_get hnote, fits_of_get hfile,
      fits_of_get hsave, fits_of_get hgrabbing, fits_of_get hkey, List.forall_mem_nil _⟩
  · simp only [Outcome.bind_eq_ok_iff, Outcome.pure_eq_ok_iff, get_text, get_truth, finish_recordOf,
      true_and, exists_const]
    constructor
    · rintro ⟨ms, rfl, _, htitle, _, hsubtitle, _, hnote, _, hfile, _, hsave, _, hgrabbing, _,
        hkey, rfl⟩
      exact ⟨ms, rfl, htitle, hsubtitle, hnote, hfile, hsave, hgrabbing, hkey⟩
    · rintro ⟨ms, rfl, htitle, hsubtitle, hnote, hfile, hsave, hgrabbing, hkey⟩
      exact ⟨ms, rfl, _, htitle, _, hsubtitle, _, hnote, _, hfile, _, hsave, _, hgrabbing, _, hkey,
        rfl⟩

theorem Window.reads {v : Json} (hv : Window.NoPlaces v) : Reads Window.ofJson Window.Held v := by
  intro w
  obtain ⟨hv, hparts⟩ := hv
  rw [Window.ofJson, Window.Held]
  refine (record_eq_ok_iff hv ?_).trans ?_
  · intro ms h
    simp only [Outcome.bind_eq_ok_iff] at h
    obtain ⟨_, hname, _, htitle, _, hsubtitle, _, hsaving, _, hsystem, _, hkey, _⟩ := h
    simp only [forms, List.forall_mem_cons]
    exact ⟨fits_of_get hname, fits_of_get htitle, fits_of_get hsubtitle, fits_of_get hsaving,
      fits_of_get hsystem, fits_of_get hkey, List.forall_mem_nil _⟩
  · refine exists_congr fun ms => and_congr_right fun hms => ?_
    have hparts := hparts ms hms
    have hsaving : ∀ {c : ConfigurationSaving},
        (recordOf "WindowConfig" forms ms).get 3 savingField = .ok c ↔
          Required ms "configurationSaving" ConfigurationSaving.Held c :=
      get_eq_ok_iff_required rfl fun u hu =>
        ConfigurationSaving.reads (hparts "configurationSaving" (by simp) u hu)
    have hkey : ∀ {k : KeySettings},
        (recordOf "WindowConfig" forms ms).get 5 keyField = .ok k ↔
          Optional ms "keySettings" KeySettings.Held {} k :=
      get_eq_ok_iff_optional rfl fun u hu =>
        KeySettings.reads (hparts "keySettings" (by simp) u hu)
    simp only [Outcome.bind_eq_ok_iff, Outcome.pure_eq_ok_iff, get_text, get_truth, hsaving, hkey,
      finish_recordOf, true_and, exists_const]
    constructor
    · rintro ⟨_, hname, _, htitle, _, hsubtitle, _, hsaving, _, hsystem, _, hkey, rfl⟩
      exact ⟨hname, htitle, hsubtitle, hsaving, hsystem, hkey⟩
    · rintro ⟨hname, htitle, hsubtitle, hsaving, hsystem, hkey⟩
      exact ⟨_, hname, _, htitle, _, hsubtitle, _, hsaving, _, hsystem, _, hkey, rfl⟩

section

variable {name : String} {forms : List FieldForm} {ms : List (String × Json)} {place : Nat}

theorem Widget.get_color {color : Option String} :
    (recordOf name forms ms).get place Widget.colorField = .ok color ↔
      Optional ms "color" HoldsTextOrNull none color :=
  get_eq_ok_iff_optional rfl fun v _ => reads_textOrNull v

theorem Widget.get_options {options : List String} :
    (recordOf name forms ms).get place Widget.optionsField = .ok options ↔
      Required ms "options" (HoldsList HoldsText) options :=
  get_eq_ok_iff_required rfl fun _ _ => reads_list fun _ _ u _ => reads_text u

theorem Widget.controlOf_eq_ok_iff {kind : WidgetKind} {c : Control} :
    Widget.controlOf (recordOf name forms ms) kind = .ok c ↔ c.kind = kind ∧ c.Held ms := by
  cases kind <;>
    simp only [Widget.controlOf, Outcome.bind_eq_ok_iff, Outcome.pure_eq_ok_iff, Fields.callback,
      get_text, get_truth, get_number, Widget.get_color, Widget.get_options]
  case button =>
    constructor
    · rintro ⟨_, hbody, rfl⟩
      exact ⟨rfl, hbody⟩
    · rintro ⟨hkind, hc⟩
      cases c <;> cases hkind
      exact ⟨_, hc, rfl⟩
  case toggle =>
    constructor
    · rintro ⟨_, hstate, _, hbody, rfl⟩
      exact ⟨rfl, hstate, hbody⟩
    · rintro ⟨hkind, hc⟩
      cases c <;> cases hkind
      obtain ⟨hstate, hbody⟩ := hc
      exact ⟨_, hstate, _, hbody, rfl⟩
  case slider =>
    constructor
    · rintro ⟨_, hmin, _, hmax, _, hvalue, _, hsuffix, _, hbody, rfl⟩
      exact ⟨rfl, hmin, hmax, hvalue, hsuffix, hbody⟩
    · rintro ⟨hkind, hc⟩
      cases c <;> cases hkind
      obtain ⟨hmin, hmax, hvalue, hsuffix, hbody⟩ := hc
      exact ⟨_, hmin, _, hmax, _, hvalue, _, hsuffix, _, hbody, rfl⟩
  case input =>
    constructor
    · rintro ⟨_, hplaceholder, _, hclears, _, hbody, rfl⟩
      exact ⟨rfl, hplaceholder, hclears, hbody⟩
    · rintro ⟨hkind, hc⟩
      cases c <;> cases hkind
      obtain ⟨hplaceholder, hclears, hbody⟩ := hc
      exact ⟨_, hplaceholder, _, hclears, _, hbody, rfl⟩
  case label =>
    constructor
    · rintro ⟨_, hcolor, rfl⟩
      exact ⟨rfl, hcolor⟩
    · rintro ⟨hkind, hc⟩
      cases c <;> cases hkind
      exact ⟨_, hc, rfl⟩
  case paragraph =>
    constructor
    · rintro ⟨_, hcontent, rfl⟩
      exact ⟨rfl, hcontent⟩
    · rintro ⟨hkind, hc⟩
      cases c <;> cases hkind
      exact ⟨_, hc, rfl⟩
  case keybind =>
    constructor
    · rintro ⟨_, hkey, _, hmust, _, hbody, rfl⟩
      exact ⟨rfl, hkey, hmust, hbody⟩
    · rintro ⟨hkind, hc⟩
      cases c <;> cases hkind
      obtain ⟨hkey, hmust, hbody⟩ := hc
      exact ⟨_, hkey, _, hmust, _, hbody, rfl⟩
  case dropdown =>
    constructor
    · rintro ⟨_, hoptions, _, hselected, _, hseveral, _, hbody, rfl⟩
      exact ⟨rfl, hoptions, hselected, hseveral, hbody⟩
    · rintro ⟨hkind, hc⟩
      cases c <;> cases hkind
      obtain ⟨hoptions, hselected, hseveral, hbody⟩ := hc
      exact ⟨_, hoptions, _, hselected, _, hseveral, _, hbody, rfl⟩

theorem Widget.fits_of_controlOf {kind : WidgetKind} {c : Control}
    (h : Widget.controlOf (recordOf name forms ms) kind = .ok c) :
    ∀ f ∈ Widget.kindForms kind, f.Fits ms := by
  cases kind <;>
    simp only [Widget.controlOf, Outcome.bind_eq_ok_iff] at h <;>
    simp only [Widget.kindForms, List.forall_mem_cons]
  case button =>
    obtain ⟨_, hbody, _⟩ := h
    exact ⟨fits_of_get hbody, List.forall_mem_nil _⟩
  case toggle =>
    obtain ⟨_, hstate, _, hbody, _⟩ := h
    exact ⟨fits_of_get hstate, fits_of_get hbody, List.forall_mem_nil _⟩
  case slider =>
    obtain ⟨_, hmin, _, hmax, _, hvalue, _, hsuffix, _, hbody, _⟩ := h
    exact ⟨fits_of_get hmin, fits_of_get hmax, fits_of_get hvalue, fits_of_get hsuffix,
      fits_of_get hbody, List.forall_mem_nil _⟩
  case input =>
    obtain ⟨_, hplaceholder, _, hclears, _, hbody, _⟩ := h
    exact ⟨fits_of_get hplaceholder, fits_of_get hclears, fits_of_get hbody,
      List.forall_mem_nil _⟩
  case label =>
    obtain ⟨_, hcolor, _⟩ := h
    exact ⟨fits_of_get hcolor, List.forall_mem_nil _⟩
  case paragraph =>
    obtain ⟨_, hcontent, _⟩ := h
    exact ⟨fits_of_get hcontent, List.forall_mem_nil _⟩
  case keybind =>
    obtain ⟨_, hkey, _, hmust, _, hbody, _⟩ := h
    exact ⟨fits_of_get hkey, fits_of_get hmust, fits_of_get hbody, List.forall_mem_nil _⟩
  case dropdown =>
    obtain ⟨_, hoptions, _, hselected, _, hseveral, _, hbody, _⟩ := h
    exact ⟨fits_of_get hoptions, fits_of_get hselected, fits_of_get hseveral, fits_of_get hbody,
      List.forall_mem_nil _⟩

end

theorem Widget.kindOf_eq_ok_iff {v : Json} {kind : WidgetKind} :
    Widget.kindOf (canonical v) = .ok kind ↔ HoldsText v kind.name := by
  cases v with
  | text tag =>
      rw [canonical, Widget.kindOf, HoldsText, Json.text.injEq,
        ← WidgetKind.ofTag?_eq_some_iff]
      cases WidgetKind.ofTag? tag <;> simp
  | object ms => simp [canonical_object_eq, Widget.kindOf, HoldsText]
  | null | bool | whole | real | array => simp [canonical, Widget.kindOf, HoldsText]

theorem Widget.reads {v : Json} (hv : NoArray v) : Reads Widget.ofJson Widget.Held v := by
  intro w
  rw [Widget.Held]
  cases v with
  | object ms =>
      have hfields : ∀ kind, Widget.ofFields kind (canonical (.object ms)) = .ok w ↔
          w.kind = kind ∧ Required ms "id" HoldsText w.id.text ∧
            Required ms "name" HoldsText w.name ∧ w.control.Held ms := by
        intro kind
        rw [Widget.ofFields]
        refine (record_eq_ok_iff hv ?_).trans ?_
        · intro ms h
          simp only [Outcome.bind_eq_ok_iff] at h
          obtain ⟨_, hid, _, hname, _, hcontrol, _⟩ := h
          simp only [forms, List.forall_mem_cons]
          exact ⟨fits_of_get hid, fits_of_get hname, Widget.fits_of_controlOf hcontrol⟩
        · simp only [Outcome.bind_eq_ok_iff, Outcome.pure_eq_ok_iff, get_text,
            Widget.controlOf_eq_ok_iff, finish_recordOf, true_and, exists_const]
          constructor
          · rintro ⟨ns, hns, _, hid, _, hname, _, ⟨hkind, hcontrol⟩, rfl⟩
            cases hns
            exact ⟨hkind, hid, hname, hcontrol⟩
          · rintro ⟨hkind, hid, hname, hcontrol⟩
            exact ⟨ms, rfl, _, hid, _, hname, _, ⟨hkind, hcontrol⟩, rfl⟩
      rw [canonical_object_eq] at hfields ⊢
      rw [Widget.ofJson, member?_heldMembers]
      cases htag : last? "type" ms with
      | none => simp [Required, htag]
      | some tag =>
          simp only [Option.map_some, Outcome.bind_eq_ok_iff, Widget.kindOf_eq_ok_iff, hfields]
          constructor
          · rintro ⟨_, htext, rfl, hrest⟩
            exact ⟨ms, rfl, ⟨tag, htag, htext⟩, hrest⟩
          · rintro ⟨ns, hns, ⟨tag', htag', htext⟩, hrest⟩
            cases hns
            cases htag.symm.trans htag'
            exact ⟨_, htext, rfl, hrest⟩
  | array vs => exact absurd rfl (hv vs)
  | null | bool | whole | real | text => simp [canonical, Widget.ofJson]

theorem Tab.reads {v : Json} (hv : Tab.NoPlaces v) : Reads Tab.ofJson Tab.Held v := by
  intro t
  obtain ⟨hv, hparts⟩ := hv
  rw [Tab.ofJson, Tab.Held]
  refine (record_eq_ok_iff hv ?_).trans ?_
  · intro ms h
    simp only [Outcome.bind_eq_ok_iff] at h
    obtain ⟨_, hid, _, hname, _, hicon, _, hwidgets, _⟩ := h
    simp only [forms, List.forall_mem_cons]
    exact ⟨fits_of_get hid, fits_of_get hname, fits_of_get hicon, fits_of_get hwidgets,
      List.forall_mem_nil _⟩
  · refine exists_congr fun ms => and_congr_right fun hms => ?_
    have hicon : ∀ {s : String}, (recordOf "Tab" forms ms).get 2 iconField = .ok s ↔
        Optional ms "icon" HoldsText "" s :=
      get_eq_ok_iff_optional rfl fun v _ => reads_text v
    have hwidgets : ∀ {ws : List Widget}, (recordOf "Tab" forms ms).get 3 widgetsField = .ok ws ↔
        Required ms "elements" (HoldsList Widget.Held) ws :=
      get_eq_ok_iff_required rfl fun u hu => reads_list fun vs hvs u' hu' =>
        Widget.reads (hparts ms hms vs (hvs ▸ hu) u' hu')
    simp only [Outcome.bind_eq_ok_iff, Outcome.pure_eq_ok_iff, get_text, hicon, hwidgets,
      finish_recordOf, true_and, exists_const]
    constructor
    · rintro ⟨_, hid, _, hname, _, hicon, _, hwidgets, rfl⟩
      exact ⟨hid, hname, hicon, hwidgets⟩
    · rintro ⟨hid, hname, hicon, hwidgets⟩
      exact ⟨_, hid, _, hname, _, hicon, _, hwidgets, rfl⟩

theorem Document.reads {v : Json} (hv : NoArray v) (hparts : Document.NoPlaces v) :
    Reads Document.ofJson Document.Held v := by
  intro d
  rw [Document.ofJson, Document.Held]
  refine (record_eq_ok_iff hv ?_).trans ?_
  · intro ms h
    simp only [Outcome.bind_eq_ok_iff] at h
    obtain ⟨_, hwindow, _, htabs, _⟩ := h
    simp only [forms, List.forall_mem_cons]
    exact ⟨fits_of_get hwindow, fits_of_get htabs, List.forall_mem_nil _⟩
  · refine exists_congr fun ms => and_congr_right fun hms => ?_
    obtain ⟨hinWindow, hinTabs⟩ := hparts ms hms
    have hwindow : ∀ {w : Window}, (recordOf "Document" forms ms).get 0 windowField = .ok w ↔
        Required ms "window" Window.Held w :=
      get_eq_ok_iff_required rfl fun u hu => Window.reads (hinWindow u hu)
    have htabs : ∀ {ts : List Tab}, (recordOf "Document" forms ms).get 1 tabsField = .ok ts ↔
        Required ms "tabs" (HoldsList Tab.Held) ts :=
      get_eq_ok_iff_required rfl fun u hu => reads_list fun vs hvs u' hu' =>
        Tab.reads (hinTabs vs (hvs ▸ hu) u' hu')
    simp only [Outcome.bind_eq_ok_iff, Outcome.pure_eq_ok_iff, hwindow, htabs]
    constructor
    · rintro ⟨_, hwindow, _, htabs, rfl⟩
      exact ⟨hwindow, htabs⟩
    · rintro ⟨hwindow, htabs⟩
      exact ⟨_, hwindow, _, htabs, rfl⟩

end ControlPanel
