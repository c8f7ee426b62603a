import ControlPanel.Text.Blank

/-!
An identifier read from text must not be blank; identifiers inside a document that came from
elsewhere may be, until it is validated.
-/

namespace ControlPanel

/-- Why a text names neither a tab, a widget nor a widget kind. -/
inductive NameError where
  | empty
  | unknownKind (name : String)
deriving DecidableEq, Repr

def NameError.message : NameError → String
  | .empty => "empty value"
  | .unknownKind name => "unknown widget kind: " ++ name

/-- The identifier of a tab. -/
structure TabId where
  text : String
deriving DecidableEq, Repr

/-- The identifier of a widget. -/
structure WidgetId where
  text : String
deriving DecidableEq, Repr

/-- Reads a tab identifier. White space at its ends is part of it. -/
def TabId.ofText (s : String) : Except NameError TabId :=
  if Text.isBlank s then .error .empty else .ok ⟨s⟩

/-- Reads a widget identifier. White space at its ends is part of it. -/
def WidgetId.ofText (s : String) : Except NameError WidgetId :=
  if Text.isBlank s then .error .empty else .ok ⟨s⟩

end ControlPanel
