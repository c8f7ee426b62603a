import ControlPanel.Command.Run
import ControlPanel.Proofs.Command.Selector
import ControlPanel.Proofs.Session.Run

namespace ControlPanel.Command

/-- A command on a project with its arguments. A new tab or widget is handed its identifier. -/
inductive Action where
  | addTab (id : TabId) (name icon : Option String)
  | addWidget (selector : String) (id : WidgetId) (kind : WidgetKind) (name : Option String)
  | addPreset (selector : String) (id : WidgetId) (key : String)
  | removeTab (selector : String)
  | removeWidget (selector widget : String)
  | check (settings : Settings)
  | compile (settings : Settings)

/-- The widget that a command adds: a fresh one with the name, where one is given. -/
def newWidget (id : WidgetId) (kind : WidgetKind) : Option String → Widget
  | some name => .named id kind name
  | none => .fresh id kind

/-- New identifiers are fresh. -/
def Action.IsFresh (d : Document) : Action → Prop
  | .addTab id _ _ => d.IsFreshTab id
  | .addWidget _ id _ _ => d.IsFreshWidget id
  | .addPreset _ id _ => d.IsFreshWidget id
  | _ => True

/-- Appends a widget to the tab that a selector names. -/
def addTo (d : Document) (selector : String) (w : Widget) : Except CommandError Document := do
  let tab ← d.select selector
  match d.addWidget tab w with
  | .error e => .error (.session (.document e))
  | .ok (_, d) => .ok d

/-- What a command does to the document of its project. -/
def Action.edit (d : Document) : Action → Except CommandError Document
  | .addTab id name icon =>
    .ok (d.addNamedTab id (name.getD (Document.tabNameAt (d.tabs.length + 1))) (icon.getD ""))
  | .addWidget selector id kind name => addTo d selector (newWidget id kind name)
  | .addPreset selector id key =>
    match Preset.find? key with
    | none => .error (.unknownPreset key)
    | some p => addTo d selector (p.instantiate id)
  | .removeTab selector => do
    let tab ← d.select selector
    match d.deleteTab tab with
    | .error e => .error (.session (.document e))
    | .ok (_, d) => .ok d
  | .removeWidget selector widget => do
    let tab ← d.select selector
    match WidgetId.ofText (Text.trim widget) with
    | .error e => .error (.widgetId e)
    | .ok id =>
      match d.deleteWidget tab id with
      | .error e => .error (.document e)
      | .ok (_, d) => .ok d
  | .check _ => .ok d
  | .compile _ => .ok d

/-- The document after a command. One that fails leaves it as it was. -/
def Action.after (d : Document) (a : Action) : Document :=
  (a.edit d).toOption.getD d

variable {d d' : Document}

theorem brokenField?_newWidget (id : WidgetId) (kind : WidgetKind) (name : Option String) :
    (newWidget id kind name).brokenField? = none := by
  cases name with
  | none => exact Widget.brokenField?_named id kind _
  | some name => exact Widget.brokenField?_named id kind name

theorem id_newWidget (id : WidgetId) (kind : WidgetKind) (name : Option String) :
    (newWidget id kind name).id = id := by
  cases name <;> rfl

theorem savable_of_addTo (hd : d.Savable) {selector : String} {w : Widget}
    (hw : d.IsFreshWidget w.id) (hfinite : w.brokenField? = none)
    (hadd : addTo d selector w = .ok d') : d'.Savable := by
  obtain ⟨tab, -, hadd⟩ := Outcome.bind_eq_ok_iff.mp hadd
  split at hadd
  · cases hadd
  · rename_i hwidget
    cases hadd
    exact hd.of_addWidget hw.1 hfinite hwidget

theorem savable_of_edit (hd : d.Savable) {a : Action} (ha : a.IsFresh d)
    (hedit : a.edit d = .ok d') : d'.Savable := by
  cases a with
  | addTab id name icon =>
      cases hedit
      exact hd.addNamedTab ha _ _
  | addWidget selector id kind name =>
      refine savable_of_addTo hd ?_ (brokenField?_newWidget id kind name) hedit
      rw [id_newWidget]
      exact ha
  | addPreset selector id key =>
      rw [Action.edit] at hedit
      split at hedit
      · cases hedit
      · rename_i p hp
        exact savable_of_addTo hd (w := p.instantiate id) ha
          (Preset.brokenField?_instantiate (Preset.mem_all_of_find? hp) id) hedit
  | removeTab selector =>
      obtain ⟨tab, -, hedit⟩ := Outcome.bind_eq_ok_iff.mp hedit
      split at hedit
      · cases hedit
      · rename_i hdelete
        cases hedit
        exact hd.of_deleteTab hdelete
  | removeWidget selector widget =>
      obtain ⟨tab, -, hedit⟩ := Outcome.bind_eq_ok_iff.mp hedit
      split at hedit
      · cases hedit
      · split at hedit
        · cases hedit
        · rename_i hdelete
          cases hedit
          exact hd.of_deleteWidget hdelete
  | check settings | compile settings =>
      cases hedit
      exact hd

/-- The document that an edit of a session leaves. -/
def left {α : Type} (r : Except CommandError (α × Session)) : Except CommandError Document :=
  r.map fun p => p.2.document

theorem renameTab_addNamedTab {id : TabId} (hid : id ∉ d.tabIds) (name icon name' : String) :
    (d.addNamedTab id name icon).renameTab id name' = .ok (name, d.addNamedTab id name' icon) :=
  (Document.firstTab_addNamedTab hid name icon).renameTab_eq name'

theorem setTabIcon_addNamedTab {id : TabId} (hid : id ∉ d.tabIds) (name icon icon' : String) :
    (d.addNamedTab id name icon).setTabIcon id icon' = .ok (icon, d.addNamedTab id name icon') :=
  (Document.firstTab_addNamedTab hid name icon).setTabIcon_eq icon'

/-- The name and the icon that are given come to stand in the place of the usual ones. -/
theorem left_addTabWith {s : Session} {id : TabId} (hid : id ∉ s.document.tabIds)
    (name icon : Option String) :
    left (s.addTabWith id name icon) = (Action.addTab id name icon).edit s.document := by
  cases name <;> cases icon <;>
    simp only [Session.addTabWith, Session.addTab, Document.addTab, renameTab_addNamedTab hid,
      pure_bind, setTabIcon_addNamedTab hid] <;> rfl

theorem left_addWidgetTo (s : Session) (selector : String) (w : Widget) :
    left (s.addWidgetTo selector w) = addTo s.document selector w := by
  rw [Session.addWidgetTo, addTo]
  cases hselect : s.document.select selector with
  | error e => rfl
  | ok tab =>
      have hid := Document.mem_tabIds_of_select hselect
      have hpush := Session.pushWidget_of_selected (s := { s with selection := some tab }) rfl hid w
      simp only [Outcome.ok_bind, Session.selectTab_of_mem hid, hpush]
      cases s.document.addWidget tab w <;> rfl

theorem left_removeTab (s : Session) (selector : String) :
    left (s.removeTab selector) = (Action.removeTab selector).edit s.document := by
  rw [Session.removeTab, Action.edit]
  cases s.document.select selector with
  | error e => rfl
  | ok tab =>
      simp only [Outcome.ok_bind, Session.deleteTab]
      cases s.document.deleteTab tab <;> rfl

theorem left_removeWidget (s : Session) (selector widget : String) :
    left (s.removeWidget selector widget) =
      (Action.removeWidget selector widget).edit s.document := by
  rw [Session.removeWidget, Action.edit]
  cases s.document.select selector with
  | error e => rfl
  | ok tab =>
      simp only [Outcome.ok_bind]
      cases WidgetId.ofText (Text.trim widget) with
      | error e => rfl
      | ok id =>
          dsimp only
          cases s.document.deleteWidget tab id <;> rfl

end ControlPanel.Command
