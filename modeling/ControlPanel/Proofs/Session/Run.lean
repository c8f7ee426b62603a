import ControlPanel.Proofs.Project.Loaded
import ControlPanel.Session

namespace ControlPanel.Session

/-- An operation with its arguments. A new tab or widget is handed its identifier. -/
inductive Action where
  | addTab (id : TabId)
  | selectTab (id : TabId)
  | deleteTab (id : TabId)
  | addWidget (id : WidgetId) (kind : WidgetKind)
  | addNamedWidget (id : WidgetId) (kind : WidgetKind) (name : String)
  | addPreset (id : WidgetId) (preset : Preset)
  | loadText (text : String)
  | saveText
  | compile (options : ScriptOptions)

/-- The session that an operation makes of one. -/
def perform (s : Session) : Action → Except SessionError Session
  | .addTab id => .ok (s.addTab id)
  | .selectTab id => s.selectTab id
  | .deleteTab id => (s.deleteTab id).map Prod.snd
  | .addWidget id kind => (s.addWidget id kind).map Prod.snd
  | .addNamedWidget id kind name => (s.addNamedWidget id kind name).map Prod.snd
  | .addPreset id preset => (s.addPreset id preset).map Prod.snd
  | .loadText text => loadText text
  | .saveText => s.saveText.map fun _ => s
  | .compile options => (s.compile options).map fun _ => s

/-- The session after an operation. One that is refused leaves it as it was. -/
def after (s : Session) (a : Action) : Session :=
  (s.perform a).toOption.getD s

/-- New identifiers are fresh, and a preset is one of those listed. -/
def Action.IsFresh (d : Document) : Action → Prop
  | .addTab id => d.IsFreshTab id
  | .addWidget id _ => d.IsFreshWidget id
  | .addNamedWidget id _ _ => d.IsFreshWidget id
  | .addPreset id preset => d.IsFreshWidget id ∧ preset ∈ Preset.all
  | _ => True

/-- The sessions that runs lead to from a new session or one of a document that can be saved. -/
inductive Reachable : Session → Prop
  | new : Reachable {}
  | ofDocument {d : Document} (hvalid : d.validate = .ok ())
      (hfinite : ∀ n ∈ d.numbers, n.value.isFinite = true) : Reachable (ofDocument d)
  | after {s : Session} (a : Action) : Reachable s → a.IsFresh s.document → Reachable (s.after a)

/-- The document can be saved, and the selection is one of its tabs. -/
structure Sound (s : Session) : Prop where
  savable : s.document.Savable
  selected : ∀ id ∈ s.selection, id ∈ s.document.tabIds

theorem sound_new : Sound {} where
  savable := Document.validWith_empty
  selected := by simp

theorem sound_ofDocument {d : Document} (hd : d.Savable) : (ofDocument d).Sound where
  savable := hd
  selected id hid := by
    obtain ⟨t, ht, rfl⟩ := Option.map_eq_some_iff.mp hid
    exact List.mem_map_of_mem (List.mem_of_head? ht)

variable {s s' : Session}

theorem Sound.addTab (h : s.Sound) {id : TabId} (hid : s.document.IsFreshTab id) :
    (s.addTab id).Sound where
  savable := h.savable.addTab hid
  selected i hi := by
    cases hi
    simp [Session.addTab, Document.addTab, Document.addNamedTab, Document.tabIds]

theorem selectTab_of_mem {id : TabId} (hid : id ∈ s.document.tabIds) :
    s.selectTab id = .ok { s with selection := some id } := by
  obtain ⟨before, t, after, hfirst⟩ := Document.exists_firstTab hid
  rw [selectTab, hfirst.tab?_eq]
  rfl

theorem Sound.of_selectTab (h : s.Sound) {id : TabId} (hselect : s.selectTab id = .ok s') :
    s'.Sound := by
  by_cases hid : id ∈ s.document.tabIds
  · rw [selectTab_of_mem hid] at hselect
    cases hselect
    refine ⟨h.savable, fun i hi => ?_⟩
    cases hi
    exact hid
  · rw [selectTab, Document.tab?_eq_none_iff.mpr hid] at hselect
    cases hselect

section

variable {id : TabId} {before after : List Tab} {t : Tab}

theorem deleteTab_of_first (hfirst : s.document.FirstTab id before t after) :
    s.deleteTab id =
      .ok (t, { document := { s.document with tabs := before ++ after }
                selection := if s.selection = some id then none else s.selection }) := by
  rw [deleteTab, hfirst.deleteTab_eq]

theorem exists_of_deleteTab (h : s.deleteTab id = .ok (t, s')) :
    ∃ before after, s.document.FirstTab id before t after ∧
      s' = { document := { s.document with tabs := before ++ after }
             selection := if s.selection = some id then none else s.selection } := by
  rw [deleteTab] at h
  split at h
  · cases h
  · rename_i hdelete
    obtain ⟨before, after, hfirst, rfl⟩ := Document.exists_of_deleteTab hdelete
    cases h
    exact ⟨before, after, hfirst, rfl⟩

theorem Sound.of_deleteTab (h : s.Sound) (hdelete : s.deleteTab id = .ok (t, s')) : s'.Sound := by
  obtain ⟨before, after, hfirst, rfl⟩ := exists_of_deleteTab hdelete
  refine ⟨h.savable.of_deleteTab hfirst.deleteTab_eq, fun i hi => ?_⟩
  -- What stays selected is another tab than the one removed.
  split at hi
  · cases hi
  · rename_i hne
    have hmem := h.selected i hi
    rw [hfirst.tabIds_eq, List.mem_append, List.mem_cons] at hmem
    rw [Document.tabIds, List.map_append, List.mem_append]
    rcases hmem with hmem | rfl | hmem
    · exact .inl hmem
    · exact absurd hi hne
    · exact .inr hmem

theorem pushWidget_of_none (h : s.selection = none) (w : Widget) :
    s.pushWidget w = .error .noActiveTab := by
  rw [pushWidget, activeTab?, h]
  rfl

theorem pushWidget_of_selected (hselection : s.selection = some id)
    (hid : id ∈ s.document.tabIds) (w : Widget) :
    s.pushWidget w =
      match s.document.addWidget id w with
      | .error e => .error (.document e)
      | .ok (i, document) => .ok (i, { s with document }) := by
  obtain ⟨before, t, after, hfirst⟩ := Document.exists_firstTab hid
  have hactive : s.activeTab? = some t := by
    rw [activeTab?, hselection]
    exact hfirst.tab?_eq
  cases hadd : s.document.addWidget id w <;>
    simp only [pushWidget, hactive, hfirst.id_eq, hadd]

theorem pushWidget_of_first (hselection : s.selection = some id)
    (hfirst : s.document.FirstTab id before t after) {w : Widget}
    (hw : w.id ∉ s.document.widgetIds) :
    s.pushWidget w =
      .ok (w.id, { s with
        document := s.document.replaced before { t with widgets := t.widgets ++ [w] } after }) := by
  rw [pushWidget_of_selected hselection hfirst.mem_tabIds, hfirst.addWidget_eq hw]

theorem Sound.of_pushWidget (h : s.Sound) {w : Widget} {i : WidgetId}
    (hw : s.document.IsFreshWidget w.id) (hfinite : w.brokenField? = none)
    (hpush : s.pushWidget w = .ok (i, s')) : s'.Sound := by
  cases hselection : s.selection with
  | none =>
      rw [pushWidget_of_none hselection] at hpush
      cases hpush
  | some id =>
      obtain ⟨before, t, after, hfirst⟩ := Document.exists_firstTab (h.selected id hselection)
      rw [pushWidget_of_first hselection hfirst hw.2] at hpush
      cases hpush
      refine ⟨h.savable.of_addWidget hw.1 hfinite (hfirst.addWidget_eq hw.2), fun j hj => ?_⟩
      rw [Document.tabIds_replaced, hfirst.id_eq, ← hfirst.tabIds_eq]
      exact h.selected j hj

end

theorem loadText_eq_ok_iff {text : String} :
    loadText text = .ok s ↔ ∃ d, Document.load text = .ok d ∧ s = ofDocument d := by
  rw [loadText]
  cases Document.load text with
  | error e => simp
  | ok d => simp [eq_comm]

/-- One operation keeps the session sound. -/
theorem Sound.of_perform (h : s.Sound) {a : Action} (ha : a.IsFresh s.document)
    (hperform : s.perform a = .ok s') : s'.Sound := by
  cases a with
  | addTab id =>
      cases hperform
      exact h.addTab ha
  | selectTab id => exact h.of_selectTab hperform
  | deleteTab id =>
      obtain ⟨⟨t, _⟩, hdelete, rfl⟩ := Outcome.map_eq_ok_iff.mp hperform
      exact h.of_deleteTab hdelete
  | addWidget id kind =>
      obtain ⟨⟨i, _⟩, hpush, rfl⟩ := Outcome.map_eq_ok_iff.mp hperform
      exact h.of_pushWidget (w := .fresh id kind) ha (Widget.brokenField?_named id kind _) hpush
  | addNamedWidget id kind name =>
      obtain ⟨⟨i, _⟩, hpush, rfl⟩ := Outcome.map_eq_ok_iff.mp hperform
      exact h.of_pushWidget (w := .named id kind name) ha (Widget.brokenField?_named id kind name)
        hpush
  | addPreset id preset =>
      obtain ⟨⟨i, _⟩, hpush, rfl⟩ := Outcome.map_eq_ok_iff.mp hperform
      exact h.of_pushWidget ha.1 (Preset.brokenField?_instantiate ha.2 id) hpush
  | loadText text =>
      obtain ⟨d, hload, rfl⟩ := loadText_eq_ok_iff.mp hperform
      exact sound_ofDocument (Document.savable_of_load hload)
  | saveText =>
      obtain ⟨_, -, rfl⟩ := Outcome.map_eq_ok_iff.mp hperform
      exact h
  | compile options =>
      obtain ⟨_, -, rfl⟩ := Outcome.map_eq_ok_iff.mp hperform
      exact h

theorem Sound.after (h : s.Sound) {a : Action} (ha : a.IsFresh s.document) :
    (s.after a).Sound := by
  rw [Session.after]
  cases hperform : s.perform a with
  | error e => exact h
  | ok s' => exact h.of_perform ha hperform

theorem Reachable.sound (h : Reachable s) : s.Sound := by
  induction h with
  | new => exact sound_new
  | ofDocument hvalid hfinite =>
      exact sound_ofDocument (Document.savable_iff.mpr ⟨hvalid, hfinite⟩)
  | after a _ ha ih => exact ih.after ha

/-- What adding a widget comes to: without a selected tab it is refused, and otherwise the widget
stands behind those of the selected tab and nothing else has changed. -/
def Appends (s : Session) (w : Widget) (r : Except SessionError (WidgetId × Session)) : Prop :=
  (r = .error .noActiveTab ↔ s.selection = none) ∧
    ∀ id, s.selection = some id →
      ∃ before t after, s.document.tabs = before ++ t :: after ∧ t.id = id ∧
        r = .ok (w.id, { s with document :=
          { s.document with
            tabs := before ++ { t with widgets := t.widgets ++ [w] } :: after } })

theorem Sound.appends (h : s.Sound) {w : Widget} (hw : s.document.IsFreshWidget w.id) :
    s.Appends w (s.pushWidget w) := by
  cases hselection : s.selection with
  | none =>
      refine ⟨iff_of_true (pushWidget_of_none hselection w) hselection, fun id hid => ?_⟩
      rw [hselection] at hid
      cases hid
  | some id =>
      obtain ⟨before, t, after, hfirst⟩ := Document.exists_firstTab (h.selected id hselection)
      have hpush := pushWidget_of_first hselection hfirst hw.2
      constructor
      · simp [hpush, hselection]
      · intro i hi
        rw [hselection] at hi
        cases hi
        exact ⟨before, t, after, hfirst.tabs_eq, hfirst.id_eq, hpush⟩

theorem Sound.saveText_eq (h : s.Sound) : s.saveText = .ok s.document.toJson.pretty := by
  rw [saveText, h.savable.save_eq]

theorem Sound.exists_compile (h : s.Sound) (options : ScriptOptions) :
    ∃ script, s.compile options = .ok script := by
  obtain ⟨script, hscript⟩ := h.savable.exists_compile options
  exact ⟨script, by rw [compile, hscript]⟩

theorem Sound.exists_deleteTab (h : s.Sound) {id : TabId} (hid : s.selection = some id) :
    ∃ t s', s.deleteTab id = .ok (t, s') ∧ s'.selection = none := by
  obtain ⟨before, t, after, hfirst⟩ := Document.exists_firstTab (h.selected id hid)
  refine ⟨t, _, deleteTab_of_first hfirst, ?_⟩
  exact if_pos hid

theorem selection_of_deleteTab {id : TabId} {t : Tab} (hid : s.selection ≠ some id)
    (hdelete : s.deleteTab id = .ok (t, s')) : s'.selection = s.selection := by
  obtain ⟨before, after, -, rfl⟩ := exists_of_deleteTab hdelete
  exact if_neg hid

theorem selection_of_loadText {text : String} (hload : loadText text = .ok s) :
    s.selection = s.document.tabs.head?.map Tab.id := by
  obtain ⟨d, -, rfl⟩ := loadText_eq_ok_iff.mp hload
  rfl

theorem selection_addTab (s : Session) (id : TabId) :
    (s.addTab id).selection = (s.addTab id).document.tabs.getLast?.map Tab.id := by
  simp [addTab, Document.addTab, Document.addNamedTab]

theorem Sound.count_selected (h : s.Sound) {id : TabId} (hid : s.selection = some id) :
    s.document.tabIds.count id = 1 :=
  List.count_eq_one_of_mem (Document.validate_eq_ok_iff.mp h.savable.valid).1.nodup
    (h.selected id hid)

/-- In every session that a run leads to, the document can be saved and compiled, and the selection
is exactly one tab, which is followed through every operation. -/
theorem Reachable.in_order (h : Reachable s) :
    (s.document.validate = .ok () ∧ (∀ n ∈ s.document.numbers, n.value.isFinite = true) ∧
      (∃ text, s.saveText = .ok text) ∧ ∀ options, ∃ script, s.compile options = .ok script) ∧
    (∀ id, s.selection = some id → s.document.tabIds.count id = 1) ∧
    ((∀ id, (s.addTab id).selection = some id ∧
        (s.addTab id).selection = (s.addTab id).document.tabs.getLast?.map Tab.id) ∧
      (∀ text s', loadText text = .ok s' → s'.selection = s'.document.tabs.head?.map Tab.id) ∧
      (∀ id, s.selection = some id → ∃ t s', s.deleteTab id = .ok (t, s') ∧ s'.selection = none) ∧
      ∀ id t s', s.selection ≠ some id → s.deleteTab id = .ok (t, s') →
        s'.selection = s.selection) ∧
    ∀ id, s.document.IsFreshWidget id →
      (∀ kind, s.Appends (.fresh id kind) (s.addWidget id kind)) ∧
      (∀ kind name, s.Appends (.named id kind name) (s.addNamedWidget id kind name)) ∧
      ∀ p : Preset, s.Appends (p.instantiate id) (s.addPreset id p) := by
  have hs := h.sound
  refine ⟨⟨hs.savable.valid, (Document.savable_iff.mp hs.savable).2, ⟨_, hs.saveText_eq⟩,
    hs.exists_compile⟩, fun id => hs.count_selected, ⟨fun id => ⟨rfl, s.selection_addTab id⟩,
    fun text s' => selection_of_loadText, fun id => hs.exists_deleteTab,
    fun id t s' => selection_of_deleteTab⟩, fun id hid => ⟨fun kind => ?_, fun kind name => ?_,
    fun p => ?_⟩⟩
  · exact hs.appends (w := .fresh id kind) hid
  · exact hs.appends (w := .named id kind name) hid
  · exact hs.appends (w := p.instantiate id) hid

/-- A new session after a tab and a slider were added to it. -/
def oneSlider : Session :=
  (({} : Session).after (.addTab ⟨"a"⟩)).after (.addWidget ⟨"b"⟩ .slider)

theorem in_order_oneSlider :
    Reachable oneSlider ∧ oneSlider.selection = some ⟨"a"⟩ ∧
      ∃ text, oneSlider.saveText = .ok text := by
  have htab : Action.IsFresh {} (.addTab ⟨"a"⟩) := ⟨by decide, by decide⟩
  have hwidget : Action.IsFresh (({} : Session).after (.addTab ⟨"a"⟩)).document
      (.addWidget ⟨"b"⟩ .slider) := ⟨by decide, by decide⟩
  have hreachable : Reachable oneSlider := .after _ (.after _ .new htab) hwidget
  obtain ⟨⟨-, -, hsave, -⟩, -⟩ := hreachable.in_order
  exact ⟨hreachable, rfl, hsave⟩

end ControlPanel.Session
