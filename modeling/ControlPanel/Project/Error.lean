import ControlPanel.Json.Fault
import ControlPanel.Json.Value
import ControlPanel.Number.Written
import ControlPanel.Script.Error
import ControlPanel.Text.Quoted

namespace ControlPanel

/-- What a place in a saved project calls for. -/
inductive Expectation where
  | text
  | truth
  | number
  | list
  | record (name : String)
  | widget
  | kind
deriving DecidableEq, Repr

def Expectation.message : Expectation → String
  | text => "a string"
  | truth => "a boolean"
  | number => "f64"
  | list => "a sequence"
  | record name => "struct " ++ name
  | widget => "internally tagged enum Widget"
  | kind => "variant identifier"

/-- What a message says of a value in the wrong place. -/
def Json.shown : Json → String
  | null => "null"
  | bool b => "boolean `" ++ (if b then "true" else "false") ++ "`"
  | whole n => "integer `" ++ toString n ++ "`"
  | real x => "floating point `" ++ x.shown ++ "`"
  | text s => "string " ++ Text.quoted s
  | array _ => "sequence"
  | object _ => "map"

/-- Why a JSON value does not have the form of a project. -/
inductive Misfit where
  | wrongType (found : Json) (expected : Expectation)
  | missingField (name : String)
  | unknownKind (tag : String)
  | tooShort (length : Nat) (record : String) (fields : Nat)
  | tooLong (length : Nat)
  | widgetTooLong (length fields : Nat)

/-- A word for so many items. -/
def countedElements (n : Nat) : String :=
  toString n ++ (if n = 1 then " element" else " elements")

/-- Names between backticks, separated by commas. -/
def listedNames : List String → String
  | [] => ""
  | [s] => "`" ++ s ++ "`"
  | s :: t :: l => "`" ++ s ++ "`, " ++ listedNames (t :: l)

def Misfit.message : Misfit → String
  | wrongType found expected => "invalid type: " ++ found.shown ++ ", expected " ++ expected.message
  | missingField name => "missing field `" ++ name ++ "`"
  | unknownKind tag =>
    "unknown variant `" ++ tag ++ "`, expected one of " ++
      listedNames (WidgetKind.all.map WidgetKind.name)
  | tooShort length record fields =>
    "invalid length " ++ toString length ++ ", expected struct " ++ record ++ " with " ++
      countedElements fields
  | tooLong length => "invalid length " ++ toString length ++ ", expected fewer elements in array"
  | widgetTooLong length fields =>
    "invalid length " ++ toString length ++ ", expected " ++ countedElements fields ++
      " in sequence"

/-- The two parts that every saved project has. -/
inductive Section where
  | window
  | tabs
deriving DecidableEq, Repr

def Section.name : Section → String
  | window => "window"
  | tabs => "tabs"

/-- Why a text is no project, or a document cannot be saved. -/
inductive ProjectError where
  | notJson (error : Json.SyntaxError)
  | notAnObject
  | missingSection (part : Section)
  | malformed (misfit : Misfit)
  | invalid (error : DocumentError)
  | notFinite (widget : WidgetId) (field : SliderField)

def ProjectError.message : ProjectError → String
  | notJson error => "project is not valid JSON: " ++ error.message
  | notAnObject => "project must be a JSON object"
  | missingSection part => "project is missing the `" ++ part.name ++ "` section"
  | malformed misfit => "malformed project: " ++ misfit.message
  | invalid error => "invalid project: " ++ error.message
  | notFinite widget field =>
    "slider " ++ widget.text ++ ": field `" ++ field.name ++ "` is not a finite number"

end ControlPanel
