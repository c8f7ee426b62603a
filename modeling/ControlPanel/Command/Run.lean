import ControlPanel.Command.Selector

/-!
Fresh identifiers and the time come from the caller of a command.
-/

namespace ControlPanel

/-- Where a script went. -/
inductive ScriptTarget where
  | printed (script : String)
  | written (path : String)
deriving DecidableEq, Repr

namespace Session

/-- Appends a tab with the given name and icon, where they are given. -/
def addTabWith (s : Session) (id : TabId) (name icon : Option String) :
    Except CommandError (TabId × Session) := do
  let s := s.addTab id
  let renamed ←
    match name with
    | none => pure s.document
    | some name =>
      match s.document.renameTab id name with
      | .error e => .error (.document e)
      | .ok (_, d) => pure d
  let document ←
    match icon with
    | none => pure renamed
    | some icon =>
      match renamed.setTabIcon id icon with
      | .error e => .error (.document e)
      | .ok (_, d) => pure d
  pure (id, { s with document })

/-- Selects the tab that a selector names and appends a widget to it. -/
def addWidgetTo (s : Session) (selector : String) (w : Widget) :
    Except CommandError (WidgetId × Session) := do
  let tab ← s.document.select selector
  match s.selectTab tab with
  | .error e => .error (.session e)
  | .ok s =>
    match s.pushWidget w with
    | .error e => .error (.session e)
    | .ok r => pure r

/-- Removes the tab that a selector names. -/
def removeTab (s : Session) (selector : String) : Except CommandError (Tab × Session) := do
  let tab ← s.document.select selector
  match s.deleteTab tab with
  | .error e => .error (.session e)
  | .ok r => pure r

/-- Removes a widget from the tab that a selector names. White space around the identifier does
not count. -/
def removeWidget (s : Session) (selector widget : String) :
    Except CommandError (Widget × Session) := do
  let tab ← s.document.select selector
  match WidgetId.ofText (Text.trim widget) with
  | .error e => .error (.widgetId e)
  | .ok id =>
    match s.document.deleteWidget tab id with
    | .error e => .error (.document e)
    | .ok (w, document) => pure (w, { s with document })

/-- What a project holds, tab by tab, and the size of its script. -/
def summary (s : Session) (project script : String) : String :=
  let widgetLine (w : Widget) : String :=
    "     - " ++ w.kind.name ++ " " ++ w.name ++ " [" ++ w.id.text ++ "]\n"
  let tabLines (t : Tab) (n : Nat) : String :=
    "  " ++ toString (n + 1) ++ ". " ++ t.name ++ " [" ++ t.id.text ++ "]\n" ++
      String.join (t.widgets.map widgetLine)
  project ++ ": ok (" ++ toString s.document.tabs.length ++ " tabs, " ++
    toString s.document.widgetCount ++ " widgets, " ++ toString script.utf8ByteSize ++
    " bytes of Lua)\n" ++
    String.join (s.document.tabs.zipIdx.map fun (t, n) => tabLines t n)

end Session

namespace Command

variable {m : Type → Type} [Monad m] [FileAccess m]

/-- The session of a project. -/
def openProject (path : String) : m (Except CommandError Session) := do
  match ← ProjectFile.load path with
  | .error e => pure (.error (.load path e))
  | .ok d => pure (.ok (.ofDocument d))

/-- Opens a project, edits it and saves it. -/
def editProject {α : Type} (path : String)
    (edit : Session → Except CommandError (α × Session)) : m (Except CommandError α) := do
  match ← openProject path with
  | .error e => pure (.error e)
  | .ok s =>
    match edit s with
    | .error e => pure (.error e)
    | .ok (a, s) =>
      match ← ProjectFile.save path s.document with
      | .error e => pure (.error (.save path e))
      | .ok () => pure (.ok a)

/-- Makes an empty project where nothing is yet; without a path its name tells the time. -/
def newProject (settings : Settings) (millis : Int) (path : Option String) :
    m (Except CommandError String) := do
  let path := path.getD (Path.join (settings.projectsDirectory.getD "") (ProjectFile.nameAt millis))
  if ← FileAccess.contains path then pure (.error (.alreadyExists path))
  else
    match ← ProjectFile.save path {} with
    | .error e => pure (.error (.create path e))
    | .ok () => pure (.ok path)

/-- The session of a project and its script. -/
def compileProject (settings : Settings) (path : String) :
    m (Except CommandError (Session × String)) := do
  match ← openProject path with
  | .error e => pure (.error e)
  | .ok s =>
    match s.compile settings.scriptOptions with
    | .error e => pure (.error (.compile path e))
    | .ok script => pure (.ok (s, script))

/-- Compiles a project into a file: the given one, or one in the directory for scripts. Without
either the script is printed. -/
def compile (settings : Settings) (path : String) (out : Option String) :
    m (Except CommandError ScriptTarget) := do
  match ← compileProject settings path with
  | .error e => pure (.error e)
  | .ok (_, script) =>
    match out.or (settings.outputDirectory.map fun d => Path.join d settings.scriptName) with
    | none => pure (.ok (.printed script))
    | some target =>
      match ← ProjectFile.writeText target script with
      | .error e => pure (.error (.writeScript e))
      | .ok () => pure (.ok (.written target))

/-- Compiles a project without writing anything. -/
def check (settings : Settings) (path : String) : m (Except CommandError String) := do
  match ← compileProject settings path with
  | .error e => pure (.error e)
  | .ok (s, script) => pure (.ok (s.summary path script))

def addTab (path : String) (id : TabId) (name icon : Option String) :
    m (Except CommandError TabId) :=
  editProject path fun s => s.addTabWith id name icon

def addWidget (path selector : String) (id : WidgetId) (kind : WidgetKind) (name : Option String) :
    m (Except CommandError WidgetId) :=
  editProject path fun s =>
    s.addWidgetTo selector
      (match name with
       | some name => .named id kind name
       | none => .fresh id kind)

def addPreset (path selector : String) (id : WidgetId) (key : String) :
    m (Except CommandError WidgetId) :=
  match Preset.find? key with
  | none => pure (.error (.unknownPreset key))
  | some p => editProject path fun s => s.addWidgetTo selector (p.instantiate id)

def removeTab (path selector : String) : m (Except CommandError String) := do
  match ← editProject path fun s => s.removeTab selector with
  | .error e => pure (.error e)
  | .ok t =>
    pure (.ok ("removed tab " ++ t.name ++ " (" ++ toString t.widgets.length ++ " widgets)"))

def removeWidget (path selector widget : String) : m (Except CommandError String) := do
  match ← editProject path fun s => s.removeWidget selector widget with
  | .error e => pure (.error e)
  | .ok w => pure (.ok ("removed " ++ w.kind.name ++ " " ++ w.name))

end Command

end ControlPanel
