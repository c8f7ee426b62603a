import ControlPanel.Number.Binary64
import ControlPanel.Widget.Kind

namespace ControlPanel

/-- The settings of a slider. -/
structure Slider where
  min : Binary64
  max : Binary64
  value : Binary64
  suffix : String
  callback : String
deriving DecidableEq, Repr

/-- What a widget of each kind holds besides its identifier and name. -/
inductive Control where
  | button (callback : String)
  | toggle (state : Bool) (callback : String)
  | slider (settings : Slider)
  | input (placeholder : String) (clearsOnFocusLoss : Bool) (callback : String)
  | label (color : Option String)
  | paragraph (content : String)
  | keybind (key : String) (mustHold : Bool) (callback : String)
  | dropdown (options : List String) (selected : String) (allowsSeveral : Bool) (callback : String)
deriving DecidableEq, Repr

/-- One control of a tab. -/
structure Widget where
  id : WidgetId
  name : String
  control : Control
deriving DecidableEq, Repr

namespace Control

def kind : Control → WidgetKind
  | button .. => .button
  | toggle .. => .toggle
  | slider .. => .slider
  | input .. => .input
  | label .. => .label
  | paragraph .. => .paragraph
  | keybind .. => .keybind
  | dropdown .. => .dropdown

/-- The body of the callback, for the kinds that have one. -/
def callback? : Control → Option String
  | button callback => some callback
  | toggle _ callback => some callback
  | slider s => some s.callback
  | input _ _ callback => some callback
  | label _ => none
  | paragraph _ => none
  | keybind _ _ callback => some callback
  | dropdown _ _ _ callback => some callback

/-- The settings of a fresh slider: half of a hundred percent. -/
def freshSlider : Slider where
  min := ⟨0⟩
  max := ⟨0x4059000000000000⟩
  value := ⟨0x4049000000000000⟩
  suffix := "%"
  callback := ""

/-- The settings of a fresh widget of the given kind. -/
def fresh : WidgetKind → Control
  | .button => button ""
  | .toggle => toggle false ""
  | .slider => slider freshSlider
  | .input => input "Type here..." false ""
  | .label => label (some "#FFFFFF")
  | .paragraph => paragraph "This is a paragraph description."
  | .keybind => keybind "K" false ""
  | .dropdown => dropdown ["Option 1", "Option 2"] "Option 1" false ""

end Control

namespace Widget

def kind (w : Widget) : WidgetKind :=
  w.control.kind

def callback? (w : Widget) : Option String :=
  w.control.callback?

/-- A fresh widget with the given name. -/
def named (id : WidgetId) (kind : WidgetKind) (name : String) : Widget where
  id
  name
  control := .fresh kind

/-- A fresh widget named after its kind. -/
def fresh (id : WidgetId) (kind : WidgetKind) : Widget :=
  named id kind ("New " ++ kind.name)

def rename (w : Widget) (name : String) : Widget :=
  { w with name }

end Widget

end ControlPanel
