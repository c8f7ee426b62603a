import ControlPanel.Command.Line
import ControlPanel.Command.Run

namespace ControlPanel

/-- How a run of the program ends. -/
structure Outcome where
  code : Nat
  stdout : String
  stderr : String
deriving DecidableEq, Repr

/-- What a run of the program depends on besides files: variables, the home directory, a fresh
identifier and the time in milliseconds. -/
structure Surroundings where
  lookup : String → Option String
  home : Option String
  freshId : String
  millis : Int

namespace Outcome

def printed (stdout : String) : Outcome where
  code := 0
  stdout
  stderr := ""

/-- The help text, after what is wrong with the command line. -/
def misused (error : Option LineError) : Outcome where
  code := 2
  stdout := ""
  stderr :=
    match error with
    | none => CommandLine.usage
    | some e => e.message ++ "\n" ++ CommandLine.usage

def failed (error : CommandError) : Outcome where
  code := 1
  stdout := ""
  stderr := error.report

end Outcome

namespace Request

variable {m : Type → Type} [Monad m] [FileAccess m]

/-- Carries out a request and gives what to print. -/
def perform (settings : Settings) (around : Surroundings) :
    Request → m (Except CommandError String)
  | new path => do
    match ← Command.newProject settings around.millis path with
    | .error e => pure (.error e)
    | .ok path => pure (.ok (path ++ "\n"))
  | compile project out => do
    match ← Command.compile settings project out with
    | .error e => pure (.error e)
    | .ok (.printed script) => pure (.ok script)
    | .ok (.written _) => pure (.ok "")
  | check project => Command.check settings project
  | addTab project name icon => do
    match ← Command.addTab project ⟨around.freshId⟩ name icon with
    | .error e => pure (.error e)
    | .ok id => pure (.ok (id.text ++ "\n"))
  | addWidget project tab kind name => do
    match ← Command.addWidget project tab ⟨around.freshId⟩ kind name with
    | .error e => pure (.error e)
    | .ok id => pure (.ok (id.text ++ "\n"))
  | addPreset project tab preset => do
    match ← Command.addPreset project tab ⟨around.freshId⟩ preset with
    | .error e => pure (.error e)
    | .ok id => pure (.ok (id.text ++ "\n"))
  | removeTab project tab => do
    match ← Command.removeTab project tab with
    | .error e => pure (.error e)
    | .ok message => pure (.ok (message ++ "\n"))
  | removeWidget project tab widget => do
    match ← Command.removeWidget project tab widget with
    | .error e => pure (.error e)
    | .ok message => pure (.ok (message ++ "\n"))
  | presets => pure (.ok Preset.listing)

end Request

namespace CommandLine

variable {m : Type → Type} [Monad m] [FileAccess m]

/-- Reads the settings and carries out the request. -/
def execute (around : Surroundings) (line : CommandLine) : m Outcome := do
  match line.config.or (around.home.map Settings.fileIn) with
  | none => pure (.failed .noHome)
  | some path =>
    match ← Settings.load path around.lookup with
    | .error e => pure (.failed (.settings path e))
    | .ok settings =>
      match ← line.request.perform settings around with
      | .error e => pure (.failed e)
      | .ok text => pure (.printed text)

/-- Runs the program on its arguments. -/
def run (around : Surroundings) (arguments : List String) : m Outcome :=
  match parse arguments with
  | .error e => pure (.misused (some e))
  | .ok none => pure (.misused none)
  | .ok (some line) => line.execute around

end CommandLine

end ControlPanel
