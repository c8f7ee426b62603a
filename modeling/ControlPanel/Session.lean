import ControlPanel.Document.Edit
import ControlPanel.Preset
import ControlPanel.Project.Load
import ControlPanel.Project.Save
import ControlPanel.Script.Compile

namespace ControlPanel

/-- An open document and the tab selected in it. -/
structure Session where
  document : Document := {}
  selection : Option TabId := none
deriving DecidableEq, Repr

/-- Why an operation on a session was refused. -/
inductive SessionError where
  | noActiveTab
  | document (error : DocumentError)
  | project (error : ProjectError)
  | script (error : ScriptError)

def SessionError.message : SessionError → String
  | noActiveTab => "no tab is selected"
  | document error => error.message
  | project error => error.message
  | script error => error.message

namespace Session

/-- The session of a document, with its first tab selected. -/
def ofDocument (document : Document) : Session where
  document
  selection := document.tabs.head?.map Tab.id

/-- The selected tab, if it is still there. -/
def activeTab? (s : Session) : Option Tab := do
  let id ← s.selection
  s.document.tab? id

def selectTab (s : Session) (id : TabId) : Except SessionError Session :=
  if (s.document.tab? id).isSome then .ok { s with selection := some id }
  else .error (.document (.unknownTab id))

/-- Appends an empty tab named after its position and selects it. -/
def addTab (s : Session) (id : TabId) : Session where
  document := s.document.addTab id
  selection := some id

/-- Removes a tab; nothing is selected afterwards if it was. -/
def deleteTab (s : Session) (id : TabId) : Except SessionError (Tab × Session) :=
  match s.document.deleteTab id with
  | .error e => .error (.document e)
  | .ok (t, document) =>
    .ok (t, { document, selection := if s.selection = some id then none else s.selection })

/-- Appends a widget to the selected tab. -/
def pushWidget (s : Session) (w : Widget) : Except SessionError (WidgetId × Session) :=
  match s.activeTab? with
  | none => .error .noActiveTab
  | some t =>
    match s.document.addWidget t.id w with
    | .error e => .error (.document e)
    | .ok (id, document) => .ok (id, { s with document })

def addWidget (s : Session) (id : WidgetId) (kind : WidgetKind) :
    Except SessionError (WidgetId × Session) :=
  s.pushWidget (.fresh id kind)

def addNamedWidget (s : Session) (id : WidgetId) (kind : WidgetKind) (name : String) :
    Except SessionError (WidgetId × Session) :=
  s.pushWidget (.named id kind name)

def addPreset (s : Session) (id : WidgetId) (p : Preset) :
    Except SessionError (WidgetId × Session) :=
  s.pushWidget (p.instantiate id)

/-- The session of the document saved as the given text. -/
def loadText (text : String) : Except SessionError Session :=
  match Document.load text with
  | .error e => .error (.project e)
  | .ok document => .ok (ofDocument document)

def saveText (s : Session) : Except SessionError String :=
  match s.document.save with
  | .error e => .error (.project e)
  | .ok text => .ok text

def compile (s : Session) (options : ScriptOptions) : Except SessionError String :=
  match s.document.compile options with
  | .error e => .error (.script e)
  | .ok text => .ok text

end Session

end ControlPanel
