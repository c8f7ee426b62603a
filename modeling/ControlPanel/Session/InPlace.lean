import ControlPanel.Document.InPlace
import ControlPanel.Session

namespace ControlPanel.Session

/-- A computation on an open session. What it has changed stays so when it is refused. -/
abbrev InPlace := EStateM SessionError Session

namespace InPlace

/-- A computation on the document of the session. -/
def onDocument {α : Type} (x : Document.InPlace α) : InPlace α := fun s =>
  match x s.document with
  | .ok a document => .ok a { s with document }
  | .error e document => .error (.document e) { s with document }

def selectTab (id : TabId) : InPlace Unit := do
  let s ← get
  if (s.document.tab? id).isNone then throw (.document (.unknownTab id))
  set { s with selection := some id }

def addTab (id : TabId) : InPlace TabId := do
  let id ← onDocument (.addTab id)
  modify fun s => { s with selection := some id }
  pure id

def deleteTab (id : TabId) : InPlace Tab := do
  let t ← onDocument (.deleteTab id)
  modify fun s => { s with selection := if s.selection = some id then none else s.selection }
  pure t

/-- Appends a widget to the selected tab. -/
def pushWidget (w : Widget) : InPlace WidgetId := do
  let s ← get
  match s.activeTab? with
  | none => throw .noActiveTab
  | some t => onDocument (.addWidget t.id w)

def addWidget (id : WidgetId) (kind : WidgetKind) : InPlace WidgetId :=
  pushWidget (.fresh id kind)

def addNamedWidget (id : WidgetId) (kind : WidgetKind) (name : String) : InPlace WidgetId :=
  pushWidget (.named id kind name)

def addPreset (id : WidgetId) (p : Preset) : InPlace WidgetId :=
  pushWidget (p.instantiate id)

/-- Opens the document saved as the given text. -/
def loadText (text : String) : InPlace Unit :=
  match Document.load text with
  | .error e => throw (.project e)
  | .ok document => set (ofDocument document)

def saveText : InPlace String := do
  let s ← get
  match s.document.save with
  | .error e => throw (.project e)
  | .ok text => pure text

def compile (options : ScriptOptions) : InPlace String := do
  let s ← get
  match s.document.compile options with
  | .error e => throw (.script e)
  | .ok script => pure script

end InPlace

end ControlPanel.Session
