import ControlPanel.Proofs.Document.InPlace
import ControlPanel.Proofs.Document.Valid

namespace ControlPanel

open Outcome

/-- What an operation answers. -/
inductive Reply where
  | done
  | tabId (id : TabId)
  | widgetId (id : WidgetId)
  | tab (t : Tab)
  | widget (w : Widget)
  | window (w : Window)
  | text (s : String)
deriving DecidableEq, Repr

namespace Document

/-- An edit with its arguments. A new tab is handed its identifier. -/
inductive Edit where
  | addTab (id : TabId)
  | addNamedTab (id : TabId) (name icon : String)
  | renameTab (id : TabId) (name : String)
  | setTabIcon (id : TabId) (icon : String)
  | deleteTab (id : TabId)
  | addWidget (tab : TabId) (w : Widget)
  | replaceWidget (tab : TabId) (w : Widget)
  | deleteWidget (tab : TabId) (id : WidgetId)
  | setWindow (window : Window)
deriving DecidableEq, Repr

/-- What an edit does to an open document. -/
def Edit.act : Edit → InPlace Reply
  | .addTab id => .tabId <$> InPlace.addTab id
  | .addNamedTab id name icon => .tabId <$> InPlace.addNamedTab id name icon
  | .renameTab id name => (fun _ => .done) <$> InPlace.renameTab id name
  | .setTabIcon id icon => (fun _ => .done) <$> InPlace.setTabIcon id icon
  | .deleteTab id => .tab <$> InPlace.deleteTab id
  | .addWidget tab w => .widgetId <$> InPlace.addWidget tab w
  | .replaceWidget tab w => .widget <$> InPlace.replaceWidget tab w
  | .deleteWidget tab id => .widget <$> InPlace.deleteWidget tab id
  | .setWindow window => .window <$> InPlace.setWindow window

/-- The document that an edit leaves, also if it is refused. -/
def after (d : Document) (e : Edit) : Document :=
  left (e.act d)

/-- The document after edits that are done one after another. -/
def afterAll (d : Document) (es : List Edit) : Document :=
  es.foldl after d

/-- A new tab has a fresh identifier, and a widget one that is not blank. -/
def Edit.IsAdmissible (d : Document) : Edit → Prop
  | .addTab id => d.IsFreshTab id
  | .addNamedTab id _ _ => d.IsFreshTab id
  | .addWidget _ w => Text.isBlank w.id.text = false
  | .replaceWidget _ w => Text.isBlank w.id.text = false
  | _ => True

/-- Each edit is admissible when its turn comes. -/
def Admits (d : Document) : List Edit → Prop
  | [] => True
  | e :: es => e.IsAdmissible d ∧ (d.after e).Admits es

variable {d d' : Document} {e : Edit} {good : Widget → Prop}

theorem Edit.allOrNothing_act (e : Edit) : AllOrNothing e.act := by
  cases e with
  | addTab id => exact AllOrNothing.map (fun d => ⟨_, InPlace.addTab_eq id d⟩) _
  | addNamedTab id name icon =>
      exact AllOrNothing.map (fun d => ⟨_, InPlace.addNamedTab_eq id name icon d⟩) _
  | renameTab id name => exact AllOrNothing.map (fun d => ⟨_, InPlace.renameTab_eq id name d⟩) _
  | setTabIcon id icon => exact AllOrNothing.map (fun d => ⟨_, InPlace.setTabIcon_eq id icon d⟩) _
  | deleteTab id => exact AllOrNothing.map (fun d => ⟨_, InPlace.deleteTab_eq id d⟩) _
  | addWidget tab w => exact AllOrNothing.map (fun d => ⟨_, InPlace.addWidget_eq tab w d⟩) _
  | replaceWidget tab w => exact AllOrNothing.map (fun d => ⟨_, InPlace.replaceWidget_eq tab w d⟩) _
  | deleteWidget tab id => exact AllOrNothing.map (fun d => ⟨_, InPlace.deleteWidget_eq tab id d⟩) _
  | setWindow window => exact AllOrNothing.map (fun d => ⟨_, InPlace.setWindow_eq window d⟩) _

/-- One edit keeps the document valid, whether it is refused or not. -/
theorem validate_after (hd : d.validate = .ok ()) (he : e.IsAdmissible d) :
    (d.after e).validate = .ok () := by
  have h : d.ValidWith fun _ => True := ⟨hd, fun _ _ => trivial⟩
  suffices hafter : (d.after e).ValidWith fun _ => True from hafter.valid
  rw [after]
  cases e with
  | addTab id => exact h.addTab he
  | addNamedTab id name icon => exact h.addNamedTab he name icon
  | renameTab id name =>
      rw [Edit.act, left_map, InPlace.renameTab_eq]
      refine left_wholly h fun a d' hr => ?_
      obtain ⟨_, hrename, hr⟩ := map_eq_ok_iff.mp hr
      cases hr
      exact h.of_renameTab hrename
  | setTabIcon id icon =>
      rw [Edit.act, left_map, InPlace.setTabIcon_eq]
      refine left_wholly h fun a d' hr => ?_
      obtain ⟨_, hicon, hr⟩ := map_eq_ok_iff.mp hr
      cases hr
      exact h.of_setTabIcon hicon
  | deleteTab id =>
      rw [Edit.act, left_map, InPlace.deleteTab_eq]
      exact left_wholly h fun _ _ => h.of_deleteTab
  | addWidget tab w =>
      rw [Edit.act, left_map, InPlace.addWidget_eq]
      exact left_wholly h fun _ _ => h.of_addWidget he trivial
  | replaceWidget tab w =>
      rw [Edit.act, left_map, InPlace.replaceWidget_eq]
      exact left_wholly h fun _ _ => h.of_replaceWidget trivial
  | deleteWidget tab id =>
      rw [Edit.act, left_map, InPlace.deleteWidget_eq]
      exact left_wholly h fun _ _ => h.of_deleteWidget
  | setWindow window => exact ⟨hd, h.good⟩

theorem validate_afterAll {es : List Edit} (hd : d.validate = .ok ()) (hes : d.Admits es) :
    (d.afterAll es).validate = .ok () := by
  induction es generalizing d with
  | nil => exact hd
  | cons e es ih => exact ih (validate_after hd hes.1) hes.2

/-- After any run of edits of a valid document, some of them refused perhaps, the document is valid:
no identifier is blank, and neither two tabs nor two widgets, in whatever tabs, share one. -/
theorem identifiers_afterAll {es : List Edit} (hd : d.validate = .ok ()) (hes : d.Admits es) :
    (d.afterAll es).validate = .ok () ∧
      (∀ id ∈ (d.afterAll es).tabIds, Text.isBlank id.text = false) ∧
      (∀ id ∈ (d.afterAll es).widgetIds, Text.isBlank id.text = false) ∧
      (d.afterAll es).tabIds.Nodup ∧ (d.afterAll es).widgetIds.Nodup := by
  have hvalid := validate_afterAll hd hes
  obtain ⟨htabs, hwidgets⟩ := validate_eq_ok_iff.mp hvalid
  exact ⟨hvalid, htabs.not_blank, hwidgets.not_blank, htabs.nodup, hwidgets.nodup⟩

/-- A tab with a label. -/
def labelled : Document where
  tabs := [{ id := ⟨"a"⟩, name := "A", widgets := [⟨⟨"x"⟩, "X", .label none⟩] }]

/-- The label is taken to another tab. A second one with its identifier is refused, and so is a
change of its kind. -/
def moving : List Edit :=
  [.addTab ⟨"b"⟩, .addWidget ⟨"b"⟩ ⟨⟨"x"⟩, "Y", .label none⟩, .deleteWidget ⟨"a"⟩ ⟨"x"⟩,
    .addWidget ⟨"b"⟩ ⟨⟨"x"⟩, "X", .label none⟩, .replaceWidget ⟨"b"⟩ ⟨⟨"x"⟩, "Z", .paragraph ""⟩,
    .replaceWidget ⟨"b"⟩ ⟨⟨"x"⟩, "Z", .label none⟩, .deleteTab ⟨"a"⟩, .renameTab ⟨"a"⟩ "C"]

theorem identifiers_moving :
    labelled.validate = .ok () ∧ labelled.Admits moving ∧
      (labelled.afterAll moving).tabIds.Nodup ∧
      (labelled.afterAll moving).widgetIds = [⟨"x"⟩] := by
  have hvalid : labelled.validate = .ok () := by decide
  have hadmits : labelled.Admits moving :=
    ⟨⟨by decide, by decide⟩, rfl, trivial, rfl, rfl, rfl, trivial, trivial, trivial⟩
  obtain ⟨-, -, -, htabs, -⟩ := identifiers_afterAll hvalid hadmits
  exact ⟨hvalid, hadmits, htabs, by decide⟩

end Document

end ControlPanel
