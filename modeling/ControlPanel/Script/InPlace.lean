import ControlPanel.Script.Registration

namespace ControlPanel.Registration

/-- A computation that writes at the end of a script. What it has written stays when it fails. -/
abbrev InPlace := EStateM ScriptError String

namespace InPlace

def write (text : String) : InPlace Unit :=
  modify fun script => script ++ text

/-- Writes the literal of a text. -/
def writeText (s : String) : InPlace Unit :=
  modify fun script => Literal.pushText script s

def field (key value : String) : InPlace Unit :=
  write ("\t" ++ key ++ " = " ++ value ++ ",\n")

def textField (key value : String) : InPlace Unit := do
  write ("\t" ++ key ++ " = ")
  writeText value
  write ",\n"

def flag (id : WidgetId) : InPlace Unit :=
  textField "Flag" id.text

/-- The body goes in as it is, on lines of its own. -/
def callback (parameter body : String) : InPlace Unit :=
  if body = "" then write ("\tCallback = function(" ++ parameter ++ ") end,\n")
  else do
    write ("\tCallback = function(" ++ parameter ++ ")\n")
    write body
    if body.toList.getLast? ≠ some '\n' then write "\n"
    write "\tend,\n"

/-- The literal of a number field of a slider. Nothing is written yet. -/
def number (id : WidgetId) (field : SliderField) (x : Binary64) : InPlace String :=
  match Literal.number x with
  | .ok s => pure s
  | .error _ => throw (.notFinite id .slider field)

/-- A call of a method with a table of the fields that are written. -/
def call (target method : String) (fields : InPlace Unit) : InPlace Unit := do
  write (target ++ ":" ++ method ++ "(\x7b\n")
  fields
  write "\x7d)\n"

/-- The increment is looked at when a part of the registration is written already. -/
def slider (target : String) (id : WidgetId) (name : String) (s : Slider) : InPlace Unit := do
  let min ← number id .min s.min
  let max ← number id .max s.max
  let value ← number id .value s.value
  call target "CreateSlider" do
    textField "Name" name
    field "Range" ("\x7b" ++ min ++ ", " ++ max ++ "\x7d")
    let increment ← number id .increment sliderIncrement
    field "Increment" increment
    textField "Suffix" s.suffix
    field "CurrentValue" value
    flag id
    callback "Value" s.callback

/-- A label takes its arguments one by one, a color only if it is not blank. -/
def label (target name : String) (color : Option String) : InPlace Unit := do
  write (target ++ ":CreateLabel(")
  writeText name
  match color.filter fun c => !Text.isBlank c with
  | some color => do
    write ", nil, Color3.fromHex("
    writeText color
    write "), false"
  | none => pure ()
  write ")\n"

/-- Writes the call that registers the widget on the target of its tab. -/
def register (w : Widget) (target : String) : InPlace Unit :=
  match w.control with
  | .button body =>
    call target "CreateButton" do
      textField "Name" w.name
      callback "" body
  | .toggle state body =>
    call target "CreateToggle" do
      textField "Name" w.name
      field "CurrentValue" (Literal.truth state)
      flag w.id
      callback "Value" body
  | .slider s => slider target w.id w.name s
  | .input placeholder clears body =>
    call target "CreateInput" do
      textField "Name" w.name
      textField "CurrentValue" ""
      textField "PlaceholderText" placeholder
      field "RemoveTextAfterFocusLost" (Literal.truth clears)
      flag w.id
      callback "Text" body
  | .label color => label target w.name color
  | .paragraph content =>
    call target "CreateParagraph" do
      textField "Title" w.name
      textField "Content" content
  | .keybind key mustHold body =>
    call target "CreateKeybind" do
      textField "Name" w.name
      textField "CurrentKeybind" key
      field "HoldToInteract" (Literal.truth mustHold)
      flag w.id
      callback "Keybind" body
  | .dropdown options selected several body =>
    call target "CreateDropdown" do
      textField "Name" w.name
      field "Options" (Literal.texts options)
      field "CurrentOption" (Literal.texts (chosen selected))
      field "MultipleOptions" (Literal.truth several)
      flag w.id
      callback "Options" body

end InPlace

end ControlPanel.Registration
