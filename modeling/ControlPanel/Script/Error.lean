import ControlPanel.Document.Error

namespace ControlPanel

/-- The number fields of a slider. The increment is the same for all sliders. -/
inductive SliderField where
  | min
  | max
  | value
  | increment
deriving DecidableEq, Repr

/-- The name of a field in messages and saved projects. -/
def SliderField.name : SliderField → String
  | min => "min"
  | max => "max"
  | value => "default"
  | increment => "increment"

/-- Why a document has no script. -/
inductive ScriptError where
  | notFinite (widget : WidgetId) (kind : WidgetKind) (field : SliderField)
  | invalidDocument (error : DocumentError)
deriving DecidableEq, Repr

def ScriptError.message : ScriptError → String
  | notFinite widget kind field =>
    kind.name ++ " widget " ++ widget.text ++ ": field \x60" ++ field.name ++
      "\x60 is not a finite number"
  | invalidDocument error => "invalid document: " ++ error.message

end ControlPanel
