import ControlPanel.Document.Edit

namespace ControlPanel.Document

/-- A computation on an open document. What it has changed stays so when it is refused. -/
abbrev InPlace := EStateM DocumentError Document

namespace InPlace

/-- The first tab with the identifier, and its place. -/
def findTab (id : TabId) : InPlace (Tab × Nat) := do
  let d ← get
  match d.tabs.zipIdx.find? fun t => t.1.id == id with
  | some found => pure found
  | none => throw (.unknownTab id)

/-- The first widget of a tab with the identifier, and its place. -/
def findWidget (tab : TabId) (t : Tab) (id : WidgetId) : InPlace (Widget × Nat) :=
  match t.widgets.zipIdx.find? fun w => w.1.id == id with
  | some found => pure found
  | none => throw (.unknownWidget tab id)

/-- Puts a tab in the place of another. -/
def putTab (place : Nat) (t : Tab) : InPlace Unit :=
  modify fun d => { d with tabs := d.tabs.set place t }

def addNamedTab (id : TabId) (name icon : String) : InPlace TabId := do
  modify fun d => { d with tabs := d.tabs ++ [{ id, name, icon }] }
  pure id

def addTab (id : TabId) : InPlace TabId := do
  let d ← get
  addNamedTab id (tabNameAt (d.tabs.length + 1)) ""

def renameTab (id : TabId) (name : String) : InPlace Unit := do
  let (t, place) ← findTab id
  putTab place { t with name }

def setTabIcon (id : TabId) (icon : String) : InPlace Unit := do
  let (t, place) ← findTab id
  putTab place { t with icon }

def deleteTab (id : TabId) : InPlace Tab := do
  let (t, place) ← findTab id
  modify fun d => { d with tabs := d.tabs.eraseIdx place }
  pure t

/-- The identifier is looked for in all tabs before the tab of the new widget is. -/
def addWidget (tab : TabId) (w : Widget) : InPlace WidgetId := do
  let d ← get
  if (d.widget? w.id).isSome then throw (.duplicateWidgetId w.id)
  let (t, place) ← findTab tab
  putTab place { t with widgets := t.widgets ++ [w] }
  pure w.id

def replaceWidget (tab : TabId) (w : Widget) : InPlace Widget := do
  let (t, place) ← findTab tab
  let (old, slot) ← findWidget tab t w.id
  if old.kind ≠ w.kind then throw (.kindChange w.id old.kind w.kind)
  putTab place { t with widgets := t.widgets.set slot w }
  pure old

def deleteWidget (tab : TabId) (id : WidgetId) : InPlace Widget := do
  let (t, place) ← findTab tab
  let (w, slot) ← findWidget tab t id
  putTab place { t with widgets := t.widgets.eraseIdx slot }
  pure w

def setWindow (window : Window) : InPlace Window := do
  let d ← get
  set { d with window }
  pure d.window

end InPlace

end ControlPanel.Document
