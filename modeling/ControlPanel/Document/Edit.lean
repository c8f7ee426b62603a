import ControlPanel.Document.Basic
import ControlPanel.Document.Error

/-!
Each edit gives the changed document and what a caller needs to undo it, or says why it was refused.
Fresh identifiers come from the caller.
-/

namespace ControlPanel

/-- Edits the first element that satisfies `p`; `missing` is the error if there is none. -/
def editFirst {α β ε : Type} (p : α → Bool) (missing : ε) (f : α → Except ε (β × α)) :
    List α → Except ε (β × List α)
  | [] => .error missing
  | a :: l =>
    if p a then do
      let (b, a) ← f a
      pure (b, a :: l)
    else do
      let (b, l) ← editFirst p missing f l
      pure (b, a :: l)

/-- Removes the first element that satisfies `p`; `missing` is the error if there is none. -/
def removeFirst {α ε : Type} (p : α → Bool) (missing : ε) : List α → Except ε (α × List α)
  | [] => .error missing
  | a :: l =>
    if p a then .ok (a, l)
    else do
      let (b, l) ← removeFirst p missing l
      pure (b, a :: l)

namespace Document

/-- Edits the first tab with the identifier. -/
def editTab {α : Type} (d : Document) (id : TabId) (f : Tab → Except DocumentError (α × Tab)) :
    Except DocumentError (α × Document) := do
  let (a, tabs) ← editFirst (fun t => t.id == id) (.unknownTab id) f d.tabs
  pure (a, { d with tabs })

/-- Appends an empty tab. -/
def addNamedTab (d : Document) (id : TabId) (name icon : String) : Document :=
  { d with tabs := d.tabs ++ [{ id, name, icon }] }

/-- The name of a tab that none is given for, by its position counted from one. -/
def tabNameAt (position : Nat) : String :=
  "Tab " ++ toString position

/-- Appends an empty tab named after its position. -/
def addTab (d : Document) (id : TabId) : Document :=
  d.addNamedTab id (tabNameAt (d.tabs.length + 1)) ""

/-- Gives a tab another name; the result is the old one. -/
def renameTab (d : Document) (id : TabId) (name : String) :
    Except DocumentError (String × Document) :=
  d.editTab id fun t => .ok (t.name, { t with name })

/-- Gives a tab another icon; the result is the old one. -/
def setTabIcon (d : Document) (id : TabId) (icon : String) :
    Except DocumentError (String × Document) :=
  d.editTab id fun t => .ok (t.icon, { t with icon })

/-- Removes a tab with all its widgets. -/
def deleteTab (d : Document) (id : TabId) : Except DocumentError (Tab × Document) := do
  let (t, tabs) ← removeFirst (fun t => t.id == id) (.unknownTab id) d.tabs
  pure (t, { d with tabs })

/-- Appends a widget to a tab, unless some tab already holds one with its identifier. -/
def addWidget (d : Document) (tab : TabId) (w : Widget) :
    Except DocumentError (WidgetId × Document) :=
  if (d.widget? w.id).isSome then .error (.duplicateWidgetId w.id)
  else d.editTab tab fun t => .ok (w.id, { t with widgets := t.widgets ++ [w] })

/-- Puts a widget in the place of the one with its identifier and kind; the result is the old
one. -/
def replaceWidget (d : Document) (tab : TabId) (w : Widget) :
    Except DocumentError (Widget × Document) :=
  d.editTab tab fun t => do
    let (old, widgets) ← editFirst (fun v => v.id == w.id) (.unknownWidget tab w.id)
      (fun v => if v.kind = w.kind then .ok (v, w) else .error (.kindChange w.id v.kind w.kind))
      t.widgets
    pure (old, { t with widgets })

/-- Removes a widget from a tab. -/
def deleteWidget (d : Document) (tab : TabId) (id : WidgetId) :
    Except DocumentError (Widget × Document) :=
  d.editTab tab fun t => do
    let (w, widgets) ← removeFirst (fun v => v.id == id) (.unknownWidget tab id) t.widgets
    pure (w, { t with widgets })

/-- Gives the first widget with the identifier another name, in whatever tab it is. -/
def renameWidget? (d : Document) (id : WidgetId) (name : String) : Option Document :=
  let rename (t : Tab) : Except Unit (Unit × Tab) := do
    let (_, widgets) ←
      editFirst (fun w => w.id == id) () (fun w => .ok ((), w.rename name)) t.widgets
    pure ((), { t with widgets })
  match editFirst (fun t => (t.widget? id).isSome) () rename d.tabs with
  | .ok (_, tabs) => some { d with tabs }
  | .error _ => none

/-- Puts other settings in place of the window's; the result is the old ones. -/
def setWindow (d : Document) (window : Window) : Window × Document :=
  (d.window, { d with window })

end Document

end ControlPanel
