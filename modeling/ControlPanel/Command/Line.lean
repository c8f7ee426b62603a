import ControlPanel.Widget.Kind

namespace ControlPanel

/-- The options, each of which takes a value. -/
inductive Flag where
  | config
  | out
  | name
  | icon
  | tab
  | kind
  | preset
  | widget
deriving DecidableEq, Repr

namespace Flag

def all : List Flag :=
  [config, out, name, icon, tab, kind, preset, widget]

def text : Flag → String
  | config => "--config"
  | out => "--out"
  | name => "--name"
  | icon => "--icon"
  | tab => "--tab"
  | kind => "--kind"
  | preset => "--preset"
  | widget => "--widget"

def ofText? (s : String) : Option Flag :=
  all.find? fun f => f.text == s

/-- Whether the value may be blank. -/
def mayBeBlank : Flag → Bool
  | config => true
  | name => true
  | icon => true
  | _ => false

end Flag

/-- Whether an argument has the form of an option. -/
def isOption (argument : String) : Bool :=
  ['-', '-'].isPrefixOf argument.toList

/-- What a command line asks for. -/
inductive Request where
  | new (path : Option String)
  | compile (project : String) (out : Option String)
  | check (project : String)
  | addTab (project : String) (name icon : Option String)
  | addWidget (project tab : String) (kind : WidgetKind) (name : Option String)
  | addPreset (project tab preset : String)
  | removeTab (project tab : String)
  | removeWidget (project tab widget : String)
  | presets
deriving DecidableEq, Repr

/-- A request and the settings file to go by, if one is given. -/
structure CommandLine where
  config : Option String
  request : Request
deriving DecidableEq, Repr

/-- Why a command line makes no sense. -/
inductive LineError where
  | missingValue (flag : Flag)
  | blankValue (flag : Flag)
  | unknownArgument (argument : String)
  | missingCommand
  | unexpectedArgument (argument : String)
  | unknownCommand (command : String)
  | missingProject (command : String)
  | missingFlag (command : String) (flag : Flag)
  | kind (error : NameError)
deriving DecidableEq, Repr

def LineError.message : LineError → String
  | missingValue flag => flag.text ++ " needs a value"
  | blankValue flag => flag.text ++ " must be non-empty"
  | unknownArgument argument => "Unknown argument: " ++ argument
  | missingCommand => "missing command"
  | unexpectedArgument argument => "unexpected argument: " ++ argument
  | unknownCommand command => "Unknown command: " ++ command
  | missingProject command => command ++ " needs a PROJECT path"
  | missingFlag command flag => command ++ " needs " ++ flag.text
  | kind error => Flag.kind.text ++ ": " ++ error.message

/-- The arguments of a command line, sorted into options and others; the last option comes first. -/
structure SortedArguments where
  flags : List (Flag × String) := []
  positionals : List String := []
deriving DecidableEq, Repr

namespace SortedArguments

/-- The value of an option that counts. -/
def value? (a : SortedArguments) (f : Flag) : Option String :=
  (a.flags.find? fun p => p.1 == f).map Prod.snd

/-- Sorts arguments after those already sorted. `none` means that help is asked for. -/
def add (a : SortedArguments) : List String → Except LineError (Option SortedArguments)
  | [] => .ok (some a)
  | argument :: rest =>
    if argument = "--help" ∨ argument = "-h" then .ok none
    else
      match Flag.ofText? argument with
      | some f =>
        match rest with
        | [] => .error (.missingValue f)
        | v :: rest =>
          if Text.isBlank v && !f.mayBeBlank then .error (.blankValue f)
          else add { a with flags := (f, v) :: a.flags } rest
      | none =>
        if isOption argument then .error (.unknownArgument argument)
        else add { a with positionals := a.positionals ++ [argument] } rest

/-- The value of an option that a command needs. -/
def need (a : SortedArguments) (command : String) (f : Flag) : Except LineError String :=
  match a.value? f with
  | some v => .ok v
  | none => .error (.missingFlag command f)

/-- The path that a command needs. -/
def needProject (command : String) : Option String → Except LineError String
  | some path => .ok path
  | none => .error (.missingProject command)

/-- What a command with its path asks for. -/
def request (a : SortedArguments) (command : String) (path : Option String) :
    Except LineError Request :=
  if command = "new" then .ok (.new path)
  else if command = "compile" then do
    let project ← needProject command path
    pure (.compile project (a.value? .out))
  else if command = "check" then do
    let project ← needProject command path
    pure (.check project)
  else if command = "add-tab" then do
    let project ← needProject command path
    pure (.addTab project (a.value? .name) (a.value? .icon))
  else if command = "add-widget" then do
    let kind ← a.need command .kind
    let project ← needProject command path
    let tab ← a.need command .tab
    match WidgetKind.ofText kind with
    | .error e => .error (.kind e)
    | .ok kind => pure (.addWidget project tab kind (a.value? .name))
  else if command = "add-preset" then do
    let project ← needProject command path
    let tab ← a.need command .tab
    let preset ← a.need command .preset
    pure (.addPreset project tab preset)
  else if command = "rm-tab" then do
    let project ← needProject command path
    let tab ← a.need command .tab
    pure (.removeTab project tab)
  else if command = "rm-widget" then do
    let project ← needProject command path
    let tab ← a.need command .tab
    let widget ← a.need command .widget
    pure (.removeWidget project tab widget)
  else if command = "presets" then .ok .presets
  else .error (.unknownCommand command)

/-- The command line that the arguments make. -/
def commandLine (a : SortedArguments) : Except LineError CommandLine :=
  match a.positionals with
  | [] => .error .missingCommand
  | [command] => do
    let request ← a.request command none
    pure ⟨a.value? .config, request⟩
  | [command, path] => do
    let request ← a.request command (some path)
    pure ⟨a.value? .config, request⟩
  | _ :: _ :: extra :: _ => .error (.unexpectedArgument extra)

end SortedArguments

/-- Reads a command line. `none` means that help is asked for. -/
def CommandLine.parse (arguments : List String) : Except LineError (Option CommandLine) := do
  match ← SortedArguments.add {} arguments with
  | none => pure none
  | some a => do
    let line ← a.commandLine
    pure (some line)

/-- The help text. -/
def CommandLine.usage : String :=
  "Usage: rayforge [--config PATH] <command> [args]\n\nCommands:\n" ++
  "new [PATH]                                   Create an empty project " ++
  "(default: projects_dir/Rayfield_Project_<millis>.json)\n" ++
  "compile PROJECT [--out FILE]                 Compile to Lua " ++
  "(stdout unless --out or output_dir is set)\n" ++
  "check PROJECT                                Validate and compile without writing\n" ++
  "add-tab PROJECT [--name N] [--icon I]        Append a tab\n" ++
  "add-widget PROJECT --tab T --kind K [--name N]\n" ++
  "Append a widget (K: button, toggle, slider, input,\n" ++
  "label, paragraph, keybind, dropdown)\n" ++
  "add-preset PROJECT --tab T --preset P        Append a ready-made widget\n" ++
  "rm-tab PROJECT --tab T                       Delete a tab and its widgets\n" ++
  "rm-widget PROJECT --tab T --widget W         Delete a widget by id\n" ++
  "presets                                      List ready-made widgets\n\n" ++
  "Options:\n" ++
  "--config    Config file (default: ~/.rayforge/config.toml)\n" ++
  "--help      Show this help\n\n" ++
  "T is a tab id or a 1-based tab position.\n\n"

end ControlPanel
