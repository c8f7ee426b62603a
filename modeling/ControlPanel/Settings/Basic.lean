import ControlPanel.Project.File
import ControlPanel.Script.Compile
import ControlPanel.Settings.Toml.Reader

namespace ControlPanel

/-- What the commands go by. Without a directory for scripts they are printed. -/
structure Settings where
  libraryUrl : String := ({} : ScriptOptions).libraryUrl
  outputDirectory : Option String := none
  scriptName : String := ProjectFile.scriptName
  projectsDirectory : Option String := none
deriving DecidableEq, Repr

/-- Why settings cannot be read. -/
inductive SettingsError where
  | notToml
  | notText (key : String)
  | unreadable (error : StorageError)
deriving DecidableEq, Repr

/-- A message and the causes behind it, outermost first. -/
def SettingsError.chain : SettingsError → List String
  | notToml => ["parse TOML", "invalid TOML document"]
  | notText key => ["parse TOML", "invalid type for `" ++ key ++ "`, expected a string"]
  | unreadable error => ["read config file", error.message]

namespace Settings

def scriptOptions (s : Settings) : ScriptOptions where
  libraryUrl := s.libraryUrl

/-- A text that is not blank. -/
def unlessBlank (s : String) : Option String :=
  if Text.isBlank s then none else some s

/-- The text that a key is set to, which must be a string if it is set. -/
def textOf (ms : Toml.Members) (key : String) : Except SettingsError (Option String) :=
  match ms.node? key with
  | none => .ok none
  | some (.text s) => .ok (some s)
  | some _ => .error (.notText key)

/-- The settings that a text makes. -/
def ofText (s : String) : Except SettingsError Settings := do
  match Toml.parse? s with
  | none => .error .notToml
  | some ms =>
    let libraryUrl ← textOf ms "library_url"
    let outputDirectory ← textOf ms "output_dir"
    let scriptName ← textOf ms "script_file_name"
    let projectsDirectory ← textOf ms "projects_dir"
    let usual : Settings := {}
    pure
      { libraryUrl := (libraryUrl.bind unlessBlank).getD usual.libraryUrl
        outputDirectory := outputDirectory.bind unlessBlank
        scriptName := (scriptName.bind unlessBlank).getD usual.scriptName
        projectsDirectory := projectsDirectory.bind unlessBlank }

/-- The settings with those that the environment sets, without white space at their ends. -/
def override (s : Settings) (lookup : String → Option String) : Settings :=
  let get (name : String) : Option String := ((lookup name).map Text.trim).bind unlessBlank
  { libraryUrl := (get "RAYFORGE_LIBRARY_URL").getD s.libraryUrl
    outputDirectory := (get "RAYFORGE_OUTPUT_DIR").or s.outputDirectory
    scriptName := (get "RAYFORGE_SCRIPT_FILE").getD s.scriptName
    projectsDirectory := (get "RAYFORGE_PROJECTS_DIR").or s.projectsDirectory }

/-- The settings file in a home directory. -/
def fileIn (home : String) : String :=
  Path.join (Path.join home ".rayforge") "config.toml"

variable {m : Type → Type} [Monad m] [FileAccess m]

/-- The settings in a file and the environment. A missing file sets nothing. -/
def load (path : String) (lookup : String → Option String) :
    m (Except SettingsError Settings) := do
  match ← FileAccess.readText path with
  | .ok text => pure ((ofText text).map fun s => s.override lookup)
  | .error .notFound => pure (.ok (({} : Settings).override lookup))
  | .error e => pure (.error (.unreadable e))

end Settings

end ControlPanel
