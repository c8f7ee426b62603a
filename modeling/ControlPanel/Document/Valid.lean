import ControlPanel.Document.Basic
import ControlPanel.Document.Error

/-!
In a valid document no identifier is blank, no two tabs share one, and no two widgets do, in
whatever tabs they are. A tab and a widget may share one.
-/

namespace ControlPanel

namespace Document

/-- Checks widgets after those with the identifiers `seen`, and adds theirs. -/
def checkWidgets (seen : List WidgetId) : List Widget → Except DocumentError (List WidgetId)
  | [] => .ok seen
  | w :: ws =>
    if Text.isBlank w.id.text then .error .emptyId
    else if w.id ∈ seen then .error (.duplicateWidgetId w.id)
    else checkWidgets (w.id :: seen) ws

/-- Checks tabs after those with the identifiers `seenTabs`, whose widgets have `seenWidgets`. -/
def checkTabs (seenTabs : List TabId) (seenWidgets : List WidgetId) :
    List Tab → Except DocumentError Unit
  | [] => .ok ()
  | t :: ts =>
    if Text.isBlank t.id.text then .error .emptyId
    else if t.id ∈ seenTabs then .error (.duplicateTabId t.id)
    else do
      let seenWidgets ← checkWidgets seenWidgets t.widgets
      checkTabs (t.id :: seenTabs) seenWidgets ts

/-- Refuses a document that is not valid. -/
def validate (d : Document) : Except DocumentError Unit :=
  checkTabs [] [] d.tabs

end Document

end ControlPanel
