import ControlPanel.Widget.Kind

namespace ControlPanel

/-- Why an edit was refused or a document is not valid. -/
inductive DocumentError where
  | unknownTab (tab : TabId)
  | unknownWidget (tab : TabId) (widget : WidgetId)
  | duplicateTabId (tab : TabId)
  | duplicateWidgetId (widget : WidgetId)
  | emptyId
  | kindChange (widget : WidgetId) (existing replacement : WidgetKind)
deriving DecidableEq, Repr

def DocumentError.message : DocumentError → String
  | unknownTab tab => "unknown tab: " ++ tab.text
  | unknownWidget tab widget => "unknown widget " ++ widget.text ++ " in tab " ++ tab.text
  | duplicateTabId tab => "duplicate tab id: " ++ tab.text
  | duplicateWidgetId widget => "duplicate widget id: " ++ widget.text
  | emptyId => "empty identifier"
  | kindChange widget existing replacement =>
    "widget " ++ widget.text ++ " is a " ++ existing.name ++ "; cannot replace it with a " ++
      replacement.name

end ControlPanel
