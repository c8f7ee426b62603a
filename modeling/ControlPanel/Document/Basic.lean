import ControlPanel.Widget.Basic
import ControlPanel.Window

/-!
Look-ups take the first tab or widget with the identifier, so in a valid document they take the
only one.
-/

namespace ControlPanel

/-- A page of the window with its widgets. The icon is a picture's name or number, or blank. -/
structure Tab where
  id : TabId
  name : String
  icon : String := ""
  widgets : List Widget := []
deriving DecidableEq, Repr

/-- An editable control panel. Without settings it has the usual window and no tabs. -/
structure Document where
  window : Window := {}
  tabs : List Tab := []
deriving DecidableEq, Repr

namespace Tab

def widget? (t : Tab) (id : WidgetId) : Option Widget :=
  t.widgets.find? fun w => w.id == id

end Tab

namespace Document

def tab? (d : Document) (id : TabId) : Option Tab :=
  d.tabs.find? fun t => t.id == id

/-- The tab at a position counted from one. -/
def tabAt? (d : Document) : Nat → Option Tab
  | 0 => none
  | n + 1 => d.tabs[n]?

/-- The widget with the identifier and the tab that holds it. -/
def widget? (d : Document) (id : WidgetId) : Option (Tab × Widget) :=
  d.tabs.findSome? fun t => (t.widget? id).map fun w => (t, w)

/-- All widgets, tab by tab. -/
def widgets (d : Document) : List Widget :=
  d.tabs.flatMap Tab.widgets

def widgetCount (d : Document) : Nat :=
  d.tabs.foldl (fun n t => n + t.widgets.length) 0

end Document

end ControlPanel
