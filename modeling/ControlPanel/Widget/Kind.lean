import ControlPanel.Identifier

namespace ControlPanel

/-- The kinds of widget. -/
inductive WidgetKind where
  | button
  | toggle
  | slider
  | input
  | label
  | paragraph
  | keybind
  | dropdown
deriving DecidableEq, Repr

namespace WidgetKind

/-- All kinds, in the order in which messages list them. -/
def all : List WidgetKind :=
  [.button, .toggle, .slider, .input, .label, .paragraph, .keybind, .dropdown]

/-- The name of a kind. Saved projects use it as the tag of a widget. -/
def name : WidgetKind → String
  | button => "Button"
  | toggle => "Toggle"
  | slider => "Slider"
  | input => "Input"
  | label => "Label"
  | paragraph => "Paragraph"
  | keybind => "Keybind"
  | dropdown => "Dropdown"

/-- Reads the name of a kind, whatever the case of its letters and the white space around it. -/
def ofText (s : String) : Except NameError WidgetKind :=
  let s := Text.trim s
  if s = "" then .error .empty
  else
    match all.find? fun k => Text.sameIgnoringCase k.name s with
    | some k => .ok k
    | none => .error (.unknownKind s)

/-- The kind with exactly this name. -/
def ofTag? (s : String) : Option WidgetKind :=
  all.find? fun k => k.name == s

end WidgetKind

end ControlPanel
