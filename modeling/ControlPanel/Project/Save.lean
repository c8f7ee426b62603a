import ControlPanel.Document.Valid
import ControlPanel.Json.Printer
import ControlPanel.Project.Error

namespace ControlPanel

def ConfigurationSaving.toJson (c : ConfigurationSaving) : Json :=
  .object
    [("enabled", .bool c.enabled), ("folderName", .text c.folderName),
     ("fileName", .text c.fileName)]

def KeySettings.toJson (k : KeySettings) : Json :=
  .object
    [("title", .text k.title), ("subtitle", .text k.subtitle), ("note", .text k.note),
     ("fileName", .text k.fileName), ("saveKey", .bool k.saveKey),
     ("grabbingKey", .text k.grabbingKey), ("key", .text k.key)]

def Window.toJson (w : Window) : Json :=
  .object
    [("name", .text w.name), ("loadingTitle", .text w.loadingTitle),
     ("loadingSubtitle", .text w.loadingSubtitle),
     ("configurationSaving", w.configurationSaving.toJson), ("keySystem", .bool w.keySystem),
     ("keySettings", w.keySettings.toJson)]

/-- The members that belong to the kind of a widget. -/
def Control.members : Control → List (String × Json)
  | button body => [("callbackLogic", .text body)]
  | toggle state body => [("default", .bool state), ("callbackLogic", .text body)]
  | slider s =>
    [("min", .real s.min), ("max", .real s.max), ("default", .real s.value),
     ("suffix", .text s.suffix), ("callbackLogic", .text s.callback)]
  | input placeholder clears body =>
    [("placeholder", .text placeholder), ("removeTextAfterFocusLost", .bool clears),
     ("callbackLogic", .text body)]
  | label none => []
  | label (some color) => [("color", .text color)]
  | paragraph content => [("content", .text content)]
  | keybind key mustHold body =>
    [("defaultKey", .text key), ("holdToInteract", .bool mustHold), ("callbackLogic", .text body)]
  | dropdown options selected several body =>
    [("options", .array (options.map .text)), ("defaultOption", .text selected),
     ("multiSelection", .bool several), ("callbackLogic", .text body)]

def Widget.toJson (w : Widget) : Json :=
  .object
    (("type", .text w.kind.name) :: ("id", .text w.id.text) :: ("name", .text w.name) ::
      w.control.members)

def Tab.toJson (t : Tab) : Json :=
  .object
    [("id", .text t.id.text), ("name", .text t.name), ("icon", .text t.icon),
     ("elements", .array (t.widgets.map Widget.toJson))]

def Document.toJson (d : Document) : Json :=
  .object [("window", d.window.toJson), ("tabs", .array (d.tabs.map Tab.toJson))]

/-- The first number field that is not finite. -/
def Slider.brokenField? (s : Slider) : Option SliderField :=
  if !s.min.isFinite then some .min
  else if !s.max.isFinite then some .max
  else if !s.value.isFinite then some .value
  else none

/-- The first number field of a widget that is not finite. -/
def Widget.brokenField? (w : Widget) : Option SliderField :=
  match w.control with
  | .slider s => s.brokenField?
  | _ => none

/-- Refuses widgets with a number that is not finite. -/
def checkNumbers : List Widget → Except ProjectError Unit
  | [] => .ok ()
  | w :: ws =>
    match w.brokenField? with
    | some field => .error (.notFinite w.id field)
    | none => checkNumbers ws

/-- The saved text of a document. -/
def Document.save (d : Document) : Except ProjectError String := do
  match d.validate with
  | .error e => .error (.invalid e)
  | .ok () =>
    checkNumbers d.widgets
    pure d.toJson.pretty

end ControlPanel
