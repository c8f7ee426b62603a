import ControlPanel.Document.Valid
import ControlPanel.Script.Registration

/-!
Up to 190 tabs are bound to locals of their own; more of them go into one table, since a function
can have 200 locals only.
-/

namespace ControlPanel

/-- Where the finished script loads the interface library from. -/
structure ScriptOptions where
  libraryUrl : String := "https://sirius.menu/rayfield"
deriving DecidableEq, Repr

namespace Script

/-- The most tabs that have a local each. -/
def maxTabLocals : Nat := 190

/-- The local of the tab at an index counted from zero. -/
def tabLocal (index : Nat) : String :=
  "Tab" ++ toString (index + 1)

/-- The table slot of the tab at an index counted from zero. -/
def tabSlot (index : Nat) : String :=
  "Tabs[" ++ toString (index + 1) ++ "]"

/-- A line of the window's table or, two deep, of a table inside it. -/
def entry (depth : Nat) (key value : String) : String :=
  String.ofList (List.replicate depth '\t') ++ key ++ " = " ++ value ++ ",\n"

def textEntry (depth : Nat) (key value : String) : String :=
  entry depth key (Literal.text value)

def savingTable (c : ConfigurationSaving) : String :=
  "\tConfigurationSaving = \x7b\n" ++ entry 2 "Enabled" (Literal.truth c.enabled) ++
    textEntry 2 "FolderName" c.folderName ++ textEntry 2 "FileName" c.fileName ++ "\t\x7d,\n"

def keyTable (k : KeySettings) : String :=
  "\tKeySettings = \x7b\n" ++ textEntry 2 "Title" k.title ++ textEntry 2 "Subtitle" k.subtitle ++
    textEntry 2 "Note" k.note ++ textEntry 2 "FileName" k.fileName ++
    entry 2 "SaveKey" (Literal.truth k.saveKey) ++ textEntry 2 "GrabbingKey" k.grabbingKey ++
    entry 2 "Key" (Literal.texts [k.key]) ++ "\t\x7d,\n"

/-- The statements that load the library and create the window. -/
def header (w : Window) (options : ScriptOptions) : String :=
  "local Rayfield = loadstring(game:HttpGet(" ++ Literal.text options.libraryUrl ++ "))()\n\n" ++
    "local Window = Rayfield:CreateWindow(\x7b\n" ++ textEntry 1 "Name" w.name ++
    textEntry 1 "LoadingTitle" w.loadingTitle ++ textEntry 1 "LoadingSubtitle" w.loadingSubtitle ++
    savingTable w.configurationSaving ++ entry 1 "KeySystem" (Literal.truth w.keySystem) ++
    (if w.keySystem then keyTable w.keySettings else "") ++ "\x7d)\n"

/-- The icon argument of a tab: nothing if it is blank, bare digits for a picture's number. -/
def iconArgument (icon : String) : String :=
  let icon := Text.trim icon
  if icon = "" then ""
  else if icon.toList.all Char.isDigit then ", " ++ icon
  else ", " ++ Literal.text icon

/-- The statement that creates a tab. -/
def tabStatement (declare : Bool) (target : String) (t : Tab) : String :=
  (if declare then "local " else "") ++ target ++ " = Window:CreateTab(" ++ Literal.text t.name ++
    iconArgument t.icon ++ ")\n"

/-- The registrations of widgets on one target, each after an empty line. -/
def registrations (target : String) : List Widget → Except ScriptError String
  | [] => .ok ""
  | w :: ws => do
    let first ← w.registration target
    let rest ← registrations target ws
    pure ("\n" ++ first ++ rest)

/-- The target of the tab at an index, in a script with or without the table of tabs. -/
def target (tabled : Bool) (index : Nat) : String :=
  if tabled then tabSlot index else tabLocal index

/-- The tabs from an index on, with their widgets. -/
def tabs (tabled : Bool) : Nat → List Tab → Except ScriptError String
  | _, [] => .ok ""
  | index, t :: ts => do
    let widgets ← registrations (target tabled index) t.widgets
    let rest ← tabs tabled (index + 1) ts
    pure ("\n" ++ tabStatement (!tabled) (target tabled index) t ++ widgets ++ rest)

/-- The declaration of the table of tabs. -/
def tableStatement : String := "\nlocal Tabs = \x7b\x7d\n"

end Script

namespace Document

/-- Whether the tabs of the document go into a table. -/
def isTabled (d : Document) : Bool :=
  decide (Script.maxTabLocals < d.tabs.length)

/-- The script of a document. It depends on nothing but the document and the options, and a
document with an error anywhere has none. -/
def compile (d : Document) (options : ScriptOptions := {}) : Except ScriptError String := do
  match d.validate with
  | .error e => .error (.invalidDocument e)
  | .ok () =>
    let tabs ← Script.tabs d.isTabled 0 d.tabs
    pure (Script.header d.window options ++ (if d.isTabled then Script.tableStatement else "") ++
      tabs)

end Document

end ControlPanel
