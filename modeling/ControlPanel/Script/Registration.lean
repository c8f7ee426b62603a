import ControlPanel.Script.Error
import ControlPanel.Script.Literal
import ControlPanel.Widget.Basic

namespace ControlPanel

namespace Registration

/-- A line that sets a field of a table. -/
def field (key value : String) : String :=
  "\t" ++ key ++ " = " ++ value ++ ",\n"

def textField (key value : String) : String :=
  field key (Literal.text value)

/-- The text with a line break at its end, unless it has one. -/
def closeLine (body : String) : String :=
  if body.toList.getLast? = some '\n' then body else body ++ "\n"

/-- The field that holds the callback, a function of one parameter or none. -/
def callback (parameter body : String) : String :=
  if body = "" then "\tCallback = function(" ++ parameter ++ ") end,\n"
  else "\tCallback = function(" ++ parameter ++ ")\n" ++ closeLine body ++ "\tend,\n"

/-- The field under which the finished script keeps the value of a control. -/
def flag (id : WidgetId) : String :=
  textField "Flag" id.text

/-- A call of a method with a table of the given fields. -/
def call (target method fields : String) : String :=
  target ++ ":" ++ method ++ "(\x7b\n" ++ fields ++ "\x7d)\n"

/-- The step of every slider. -/
def sliderIncrement : Binary64 := ⟨0x3FF0000000000000⟩

/-- The literal of a number field of a slider. -/
def sliderNumber (id : WidgetId) (field : SliderField) (x : Binary64) : Except ScriptError String :=
  match Literal.number x with
  | .ok s => .ok s
  | .error _ => .error (.notFinite id .slider field)

/-- The fields of a slider. -/
def sliderFields (id : WidgetId) (name : String) (s : Slider) : Except ScriptError String := do
  let min ← sliderNumber id .min s.min
  let max ← sliderNumber id .max s.max
  let value ← sliderNumber id .value s.value
  let increment ← sliderNumber id .increment sliderIncrement
  pure (textField "Name" name ++ field "Range" ("\x7b" ++ min ++ ", " ++ max ++ "\x7d") ++
    field "Increment" increment ++ textField "Suffix" s.suffix ++ field "CurrentValue" value ++
    flag id ++ callback "Value" s.callback)

/-- What a label shows after its name: a color unless that is blank. -/
def labelColor : Option String → String
  | some color =>
    if Text.isBlank color then "" else ", nil, Color3.fromHex(" ++ Literal.text color ++ "), false"
  | none => ""

/-- The options that a fresh dropdown shows as chosen. -/
def chosen (selected : String) : List String :=
  if selected = "" then [] else [selected]

end Registration

namespace Widget

open Registration in
/-- The call that registers the widget on the target of its tab. -/
def registration (w : Widget) (target : String) : Except ScriptError String :=
  match w.control with
  | .button body => .ok (call target "CreateButton" (textField "Name" w.name ++ callback "" body))
  | .toggle state body =>
    .ok (call target "CreateToggle" (textField "Name" w.name ++
      field "CurrentValue" (Literal.truth state) ++ flag w.id ++ callback "Value" body))
  | .slider s => do
    let fields ← sliderFields w.id w.name s
    pure (call target "CreateSlider" fields)
  | .input placeholder clears body =>
    .ok (call target "CreateInput" (textField "Name" w.name ++ textField "CurrentValue" "" ++
      textField "PlaceholderText" placeholder ++
      field "RemoveTextAfterFocusLost" (Literal.truth clears) ++ flag w.id ++ callback "Text" body))
  | .label color =>
    .ok (target ++ ":CreateLabel(" ++ Literal.text w.name ++ labelColor color ++ ")\n")
  | .paragraph content =>
    .ok (call target "CreateParagraph" (textField "Title" w.name ++ textField "Content" content))
  | .keybind key mustHold body =>
    .ok (call target "CreateKeybind" (textField "Name" w.name ++ textField "CurrentKeybind" key ++
      field "HoldToInteract" (Literal.truth mustHold) ++ flag w.id ++ callback "Keybind" body))
  | .dropdown options selected several body =>
    .ok (call target "CreateDropdown" (textField "Name" w.name ++
      field "Options" (Literal.texts options) ++
      field "CurrentOption" (Literal.texts (chosen selected)) ++
      field "MultipleOptions" (Literal.truth several) ++ flag w.id ++ callback "Options" body))

/-- Appends the registration to a script. The first part is the script afterwards, the second the
error. -/
def register (w : Widget) (target script : String) : String × Option ScriptError :=
  match w.registration target with
  | .ok text => (script ++ text, none)
  | .error e => (script, some e)

end Widget

end ControlPanel
