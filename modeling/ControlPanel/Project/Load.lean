import ControlPanel.Document.Valid
import ControlPanel.Json.Reader
import ControlPanel.Project.Record

/-!
A text is loaded in four steps, and the first that fails gives the error: it must be JSON, an
object with both sections, of the form of a document, and valid.
-/

namespace ControlPanel

namespace Fields

def text (name : String) : Field String := { name, read := readText }

def truth (name : String) : Field Bool := { name, read := readTruth }

def number (name : String) : Field Binary64 := { name, read := readNumber }

def callback : Field String := text "callbackLogic"

end Fields

namespace ConfigurationSaving

def forms : List FieldForm :=
  [(Fields.truth "enabled").form, (Fields.text "folderName").form, (Fields.text "fileName").form]

def ofJson (v : Json) : Read ConfigurationSaving := do
  let r ← Record.ofJson "ConfigurationSaving" forms v
  let enabled ← r.get 0 (Fields.truth "enabled")
  let folderName ← r.get 1 (Fields.text "folderName")
  let fileName ← r.get 2 (Fields.text "fileName")
  r.finish .tooLong
  pure { enabled, folderName, fileName }

end ConfigurationSaving

namespace KeySettings

def forms : List FieldForm :=
  [(Fields.text "title").form, (Fields.text "subtitle").form, (Fields.text "note").form,
   (Fields.text "fileName").form, (Fields.truth "saveKey").form, (Fields.text "grabbingKey").form,
   (Fields.text "key").form]

def ofJson (v : Json) : Read KeySettings := do
  let r ← Record.ofJson "KeySettings" forms v
  let title ← r.get 0 (Fields.text "title")
  let subtitle ← r.get 1 (Fields.text "subtitle")
  let note ← r.get 2 (Fields.text "note")
  let fileName ← r.get 3 (Fields.text "fileName")
  let saveKey ← r.get 4 (Fields.truth "saveKey")
  let grabbingKey ← r.get 5 (Fields.text "grabbingKey")
  let key ← r.get 6 (Fields.text "key")
  r.finish .tooLong
  pure { title, subtitle, note, fileName, saveKey, grabbingKey, key }

end KeySettings

namespace Window

def savingField : Field ConfigurationSaving :=
  { name := "configurationSaving", read := ConfigurationSaving.ofJson }

/-- The settings of the key may be missing; the usual ones stand in for them. -/
def keyField : Field KeySettings :=
  { name := "keySettings", read := KeySettings.ofJson, standIn := some {} }

def forms : List FieldForm :=
  [(Fields.text "name").form, (Fields.text "loadingTitle").form,
   (Fields.text "loadingSubtitle").form, savingField.form, (Fields.truth "keySystem").form,
   keyField.form]

def ofJson (v : Json) : Read Window := do
  let r ← Record.ofJson "WindowConfig" forms v
  let name ← r.get 0 (Fields.text "name")
  let loadingTitle ← r.get 1 (Fields.text "loadingTitle")
  let loadingSubtitle ← r.get 2 (Fields.text "loadingSubtitle")
  let configurationSaving ← r.get 3 savingField
  let keySystem ← r.get 4 (Fields.truth "keySystem")
  let keySettings ← r.get 5 keyField
  r.finish .tooLong
  pure { name, loadingTitle, loadingSubtitle, configurationSaving, keySystem, keySettings }

end Window

namespace Widget

/-- The color of a label may be missing. -/
def colorField : Field (Option String) :=
  { name := "color", read := readOptionalText, standIn := some none }

def optionsField : Field (List String) :=
  { name := "options", read := readList readText }

/-- The fields of a widget that belong to its kind; identifier and name come before them. -/
def kindForms : WidgetKind → List FieldForm
  | .button => [Fields.callback.form]
  | .toggle => [(Fields.truth "default").form, Fields.callback.form]
  | .slider =>
    [(Fields.number "min").form, (Fields.number "max").form, (Fields.number "default").form,
     (Fields.text "suffix").form, Fields.callback.form]
  | .input =>
    [(Fields.text "placeholder").form, (Fields.truth "removeTextAfterFocusLost").form,
     Fields.callback.form]
  | .label => [colorField.form]
  | .paragraph => [(Fields.text "content").form]
  | .keybind =>
    [(Fields.text "defaultKey").form, (Fields.truth "holdToInteract").form, Fields.callback.form]
  | .dropdown =>
    [optionsField.form, (Fields.text "defaultOption").form, (Fields.truth "multiSelection").form,
     Fields.callback.form]

def forms (kind : WidgetKind) : List FieldForm :=
  (Fields.text "id").form :: (Fields.text "name").form :: kindForms kind

/-- Reads the fields that belong to a kind. -/
def controlOf (r : Record) : WidgetKind → Read Control
  | .button => do
    let body ← r.get 2 Fields.callback
    pure (.button body)
  | .toggle => do
    let state ← r.get 2 (Fields.truth "default")
    let body ← r.get 3 Fields.callback
    pure (.toggle state body)
  | .slider => do
    let min ← r.get 2 (Fields.number "min")
    let max ← r.get 3 (Fields.number "max")
    let value ← r.get 4 (Fields.number "default")
    let suffix ← r.get 5 (Fields.text "suffix")
    let callback ← r.get 6 Fields.callback
    pure (.slider { min, max, value, suffix, callback })
  | .input => do
    let placeholder ← r.get 2 (Fields.text "placeholder")
    let clears ← r.get 3 (Fields.truth "removeTextAfterFocusLost")
    let body ← r.get 4 Fields.callback
    pure (.input placeholder clears body)
  | .label => do
    let color ← r.get 2 colorField
    pure (.label color)
  | .paragraph => do
    let content ← r.get 2 (Fields.text "content")
    pure (.paragraph content)
  | .keybind => do
    let key ← r.get 2 (Fields.text "defaultKey")
    let mustHold ← r.get 3 (Fields.truth "holdToInteract")
    let body ← r.get 4 Fields.callback
    pure (.keybind key mustHold body)
  | .dropdown => do
    let options ← r.get 2 optionsField
    let selected ← r.get 3 (Fields.text "defaultOption")
    let several ← r.get 4 (Fields.truth "multiSelection")
    let body ← r.get 5 Fields.callback
    pure (.dropdown options selected several body)

/-- Reads the tag that tells the kind. -/
def kindOf : Json → Read WidgetKind
  | .text tag =>
    match WidgetKind.ofTag? tag with
    | some kind => .ok kind
    | none => .error (.unknownKind tag)
  | v => .error (.wrongType v .kind)

/-- Reads a widget of a known kind from what stands beside its tag. -/
def ofFields (kind : WidgetKind) (v : Json) : Read Widget := do
  let r ← Record.ofJson kind.name (forms kind) v
  let id ← r.get 0 (Fields.text "id")
  let name ← r.get 1 (Fields.text "name")
  let control ← controlOf r kind
  r.finish (.widgetTooLong · r.size)
  pure ⟨⟨id⟩, name, control⟩

/-- Reads a widget. Its tag is looked at before all else; in an array it comes first. -/
def ofJson : Json → Read Widget
  | .object ms =>
    match Json.member? "type" ms with
    | none => .error (.missingField "type")
    | some tag => do
      let kind ← kindOf tag
      ofFields kind (.object ms)
  | .array [] => .error (.missingField "type")
  | .array (tag :: vs) => do
    let kind ← kindOf tag
    ofFields kind (.array vs)
  | v => .error (.wrongType v .widget)

end Widget

namespace Tab

/-- The icon may be missing; it is empty then. -/
def iconField : Field String := { name := "icon", read := readText, standIn := some "" }

def widgetsField : Field (List Widget) := { name := "elements", read := readList Widget.ofJson }

def forms : List FieldForm :=
  [(Fields.text "id").form, (Fields.text "name").form, iconField.form, widgetsField.form]

def ofJson (v : Json) : Read Tab := do
  let r ← Record.ofJson "Tab" forms v
  let id ← r.get 0 (Fields.text "id")
  let name ← r.get 1 (Fields.text "name")
  let icon ← r.get 2 iconField
  let widgets ← r.get 3 widgetsField
  r.finish .tooLong
  pure { id := ⟨id⟩, name, icon, widgets }

end Tab

namespace Document

def windowField : Field Window := { name := "window", read := Window.ofJson }

def tabsField : Field (List Tab) := { name := "tabs", read := readList Tab.ofJson }

def forms : List FieldForm := [windowField.form, tabsField.form]

def ofJson (v : Json) : Read Document := do
  let r ← Record.ofJson "Document" forms v
  let window ← r.get 0 windowField
  let tabs ← r.get 1 tabsField
  pure { window, tabs }

/-- Refuses an object in which a section is missing or `null`. -/
def requireSection (ms : List (String × Json)) (part : Section) : Except ProjectError Unit :=
  match Json.member? part.name ms with
  | none => .error (.missingSection part)
  | some .null => .error (.missingSection part)
  | some _ => .ok ()

/-- The valid document that a JSON value holds. -/
def ofProject : Json → Except ProjectError Document
  | .object ms => do
    requireSection ms .window
    requireSection ms .tabs
    match ofJson (.object ms) with
    | .error e => .error (.malformed e)
    | .ok d =>
      match d.validate with
      | .error e => .error (.invalid e)
      | .ok () => .ok d
  | _ => .error .notAnObject

/-- The valid document that was saved as the given text. -/
def load (s : String) : Except ProjectError Document :=
  match Json.parse s with
  | .error e => .error (.notJson e)
  | .ok v => ofProject v

end Document

end ControlPanel
