import ControlPanel.Document.Valid
import ControlPanel.Project.Error
import ControlPanel.Proofs.Json.Grammar

/-!
What a JSON value holds, said field by field: a field is the last member with its name, other
members do not matter, and every record is an object. Nothing here depends on the order of members.
-/

namespace ControlPanel

open Json

/-- The field is present and holds the value. -/
def Required {α : Type} (ms : List (String × Json)) (key : String) (holds : Json → α → Prop)
    (a : α) : Prop :=
  ∃ v, last? key ms = some v ∧ holds v a

/-- The field holds the value, or is absent and the value stands in for it. -/
def Optional {α : Type} (ms : List (String × Json)) (key : String) (holds : Json → α → Prop)
    (standIn a : α) : Prop :=
  Required ms key holds a ∨ (last? key ms = none ∧ a = standIn)

def HoldsText (v : Json) (s : String) : Prop :=
  v = .text s

def HoldsTruth (v : Json) (b : Bool) : Prop :=
  v = .bool b

/-- A number of any kind; a whole number stands for the nearest one of 64 bits. -/
def HoldsNumber (v : Json) (x : Binary64) : Prop :=
  v = .real x ∨ ∃ n : Int, v = .whole n ∧ x = .ofDecimal (decide (n < 0)) n.natAbs 0

/-- A text, or `null` for none. -/
def HoldsTextOrNull (v : Json) : Option String → Prop
  | none => v = .null
  | some s => v = .text s

def HoldsList {α : Type} (holds : Json → α → Prop) (v : Json) (as : List α) : Prop :=
  ∃ vs, v = .array vs ∧ List.Forall₂ holds vs as

def ConfigurationSaving.Held (v : Json) (c : ConfigurationSaving) : Prop :=
  ∃ ms, v = .object ms ∧ Required ms "enabled" HoldsTruth c.enabled ∧
    Required ms "folderName" HoldsText c.folderName ∧
    Required ms "fileName" HoldsText c.fileName

def KeySettings.Held (v : Json) (k : KeySettings) : Prop :=
  ∃ ms, v = .object ms ∧ Required ms "title" HoldsText k.title ∧
    Required ms "subtitle" HoldsText k.subtitle ∧ Required ms "note" HoldsText k.note ∧
    Required ms "fileName" HoldsText k.fileName ∧ Required ms "saveKey" HoldsTruth k.saveKey ∧
    Required ms "grabbingKey" HoldsText k.grabbingKey ∧ Required ms "key" HoldsText k.key

/-- The settings of the key may be absent. -/
def Window.Held (v : Json) (w : Window) : Prop :=
  ∃ ms, v = .object ms ∧ Required ms "name" HoldsText w.name ∧
    Required ms "loadingTitle" HoldsText w.loadingTitle ∧
    Required ms "loadingSubtitle" HoldsText w.loadingSubtitle ∧
    Required ms "configurationSaving" ConfigurationSaving.Held w.configurationSaving ∧
    Required ms "keySystem" HoldsTruth w.keySystem ∧
    Optional ms "keySettings" KeySettings.Held {} w.keySettings

/-- The fields that belong to the kind of a widget. The color of a label may be absent or `null`. -/
def Control.Held (ms : List (String × Json)) : Control → Prop
  | button body => Required ms "callbackLogic" HoldsText body
  | toggle state body =>
    Required ms "default" HoldsTruth state ∧ Required ms "callbackLogic" HoldsText body
  | slider s =>
    Required ms "min" HoldsNumber s.min ∧ Required ms "max" HoldsNumber s.max ∧
      Required ms "default" HoldsNumber s.value ∧ Required ms "suffix" HoldsText s.suffix ∧
      Required ms "callbackLogic" HoldsText s.callback
  | input placeholder clears body =>
    Required ms "placeholder" HoldsText placeholder ∧
      Required ms "removeTextAfterFocusLost" HoldsTruth clears ∧
      Required ms "callbackLogic" HoldsText body
  | label color => Optional ms "color" HoldsTextOrNull none color
  | paragraph content => Required ms "content" HoldsText content
  | keybind key mustHold body =>
    Required ms "defaultKey" HoldsText key ∧ Required ms "holdToInteract" HoldsTruth mustHold ∧
      Required ms "callbackLogic" HoldsText body
  | dropdown options selected several body =>
    Required ms "options" (HoldsList HoldsText) options ∧
      Required ms "defaultOption" HoldsText selected ∧
      Required ms "multiSelection" HoldsTruth several ∧
      Required ms "callbackLogic" HoldsText body

/-- The tag is the exact name of the kind. -/
def Widget.Held (v : Json) (w : Widget) : Prop :=
  ∃ ms, v = .object ms ∧ Required ms "type" HoldsText w.kind.name ∧
    Required ms "id" HoldsText w.id.text ∧ Required ms "name" HoldsText w.name ∧
    w.control.Held ms

/-- The icon may be absent. -/
def Tab.Held (v : Json) (t : Tab) : Prop :=
  ∃ ms, v = .object ms ∧ Required ms "id" HoldsText t.id.text ∧
    Required ms "name" HoldsText t.name ∧ Optional ms "icon" HoldsText "" t.icon ∧
    Required ms "elements" (HoldsList Widget.Held) t.widgets

def Document.Held (v : Json) (d : Document) : Prop :=
  ∃ ms, v = .object ms ∧ Required ms "window" Window.Held d.window ∧
    Required ms "tabs" (HoldsList Tab.Held) d.tabs

/-- The section is absent or `null`. -/
def Section.Missing (part : Section) (ms : List (String × Json)) : Prop :=
  last? part.name ms = none ∨ last? part.name ms = some .null

/-- The value is no array. -/
def NoArray (v : Json) : Prop :=
  ∀ vs, v ≠ .array vs

/-- Neither the window nor a record in it is an array. -/
def Window.NoPlaces (v : Json) : Prop :=
  NoArray v ∧ ∀ ms, v = .object ms → ∀ key ∈ ["configurationSaving", "keySettings"],
    ∀ u, last? key ms = some u → NoArray u

/-- Neither the tab nor a widget of it is an array. -/
def Tab.NoPlaces (v : Json) : Prop :=
  NoArray v ∧ ∀ ms, v = .object ms → ∀ vs, last? "elements" ms = some (.array vs) →
    ∀ u ∈ vs, NoArray u

/-- No record below the top is an array. -/
def Document.NoPlaces (v : Json) : Prop :=
  ∀ ms, v = .object ms → (∀ u, last? "window" ms = some u → Window.NoPlaces u) ∧
    ∀ vs, last? "tabs" ms = some (.array vs) → ∀ u ∈ vs, Tab.NoPlaces u

end ControlPanel
