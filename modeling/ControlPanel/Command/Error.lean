import ControlPanel.Session
import ControlPanel.Settings.Basic

namespace ControlPanel

/-- Why a command failed. -/
inductive CommandError where
  | load (path : String) (error : FileError)
  | save (path : String) (error : FileError)
  | create (path : String) (error : FileError)
  | compile (path : String) (error : SessionError)
  | writeScript (error : FileError)
  | alreadyExists (path : String)
  | selector (error : NameError)
  | noSuchTab (selector : String) (tabs : Nat)
  | unknownPreset (key : String)
  | widgetId (error : NameError)
  | session (error : SessionError)
  | document (error : DocumentError)
  | settings (path : String) (error : SettingsError)
  | noHome

/-- A message and the causes behind it, outermost first. -/
def ScriptError.chain (e : ScriptError) : List String :=
  e.message ::
    match e with
    | notFinite _ _ _ => []
    | invalidDocument error => [error.message]

/-- A message and the causes behind it, outermost first. -/
def SessionError.chain : SessionError → List String
  | noActiveTab => [noActiveTab.message]
  | document error => [error.message]
  | project error => error.chain
  | script error => error.chain

/-- A message and the causes behind it, outermost first. -/
def CommandError.chain : CommandError → List String
  | load path error => ("load " ++ path) :: error.chain
  | save path error => ("save " ++ path) :: error.chain
  | create path error => ("create " ++ path) :: error.chain
  | compile path error => ("compile " ++ path) :: error.chain
  | writeScript error => error.chain
  | alreadyExists path => [path ++ " already exists"]
  | selector error => ["invalid tab selector: " ++ error.message]
  | noSuchTab text tabs =>
    ["no tab matches `" ++ text ++ "` (use a tab id or a position from 1 to " ++ toString tabs ++
      ")"]
  | unknownPreset key => ["unknown preset `" ++ key ++ "` (see `rayforge presets`)"]
  | widgetId error => ["invalid widget id: " ++ error.message]
  | session error => error.chain
  | document error => [error.message]
  | settings path error => ("read config from " ++ path) :: error.chain
  | noHome => ["could not determine home directory"]

namespace CommandError

/-- The whole chain on one line. -/
def message (e : CommandError) : String :=
  ": ".intercalate e.chain

/-- The lines of a text, indented from the second on. -/
def indent (spaces : Nat) (s : String) : String :=
  String.ofList (s.toList.flatMap fun c =>
    if c = '\n' then '\n' :: List.replicate spaces ' ' else [c])

/-- A cause with its number. -/
def numbered (n : Nat) (cause : String) : String :=
  let digits := toString n
  String.ofList (List.replicate (5 - digits.length) ' ') ++ digits ++ ": " ++ indent 7 cause

/-- The causes of a failure, each on lines of its own. A single cause has no number. -/
def causeLines : List String → String
  | [] => ""
  | [cause] => "\n\nCaused by:\n    " ++ indent 4 cause
  | causes =>
    "\n\nCaused by:" ++
      String.join (causes.zipIdx.map fun (cause, n) => "\n" ++ numbered n cause)

/-- What is printed about a failed command. -/
def report (e : CommandError) : String :=
  match e.chain with
  | [] => "Error: \n"
  | outermost :: causes => "Error: " ++ outermost ++ causeLines causes ++ "\n"

end CommandError

end ControlPanel
