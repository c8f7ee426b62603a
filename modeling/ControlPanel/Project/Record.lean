import ControlPanel.Number.Nearest
import ControlPanel.Project.Error

/-!
A record is saved as an object with its fields as members, and is also accepted as an array with
the fields in their order. Members are looked at in ascending order of keys, so the first one that
does not fit is reported before any missing field.
-/

namespace ControlPanel

/-- The value of a part of a project, or why it has none. -/
abbrev Read (α : Type) := Except Misfit α

def readText : Json → Read String
  | .text s => .ok s
  | v => .error (.wrongType v .text)

def readTruth : Json → Read Bool
  | .bool b => .ok b
  | v => .error (.wrongType v .truth)

/-- Reads a number; a whole number stands for the nearest one of the binary64 format. -/
def readNumber : Json → Read Binary64
  | .whole n => .ok (.ofDecimal (decide (n < 0)) n.natAbs 0)
  | .real x => .ok x
  | v => .error (.wrongType v .number)

/-- Reads a text that may be left open by `null`. -/
def readOptionalText : Json → Read (Option String)
  | .null => .ok none
  | v => do
    let s ← readText v
    pure (some s)

/-- Reads every item of a list. -/
def readItems {α : Type} (read : Json → Read α) : List Json → Read (List α)
  | [] => .ok []
  | v :: vs => do
    let a ← read v
    let as ← readItems read vs
    pure (a :: as)

def readList {α : Type} (read : Json → Read α) : Json → Read (List α)
  | .array vs => readItems read vs
  | v => .error (.wrongType v .list)

/-- A field of a record: its name, its form, and what stands in for it when it is missing. -/
structure Field (α : Type) where
  name : String
  read : Json → Read α
  standIn : Option α := none

/-- A field of which only the form matters. -/
structure FieldForm where
  name : String
  check : Json → Read Unit

def Field.form {α : Type} (f : Field α) : FieldForm where
  name := f.name
  check v := do
    let _ ← f.read v
    pure ()

/-- Where the values of a record stand. -/
inductive Source where
  | members (members : List (String × Json))
  | places (items : List Json)

/-- A record while its fields are read. -/
structure Record where
  name : String
  size : Nat
  source : Source

namespace Record

/-- Checks the members that are fields, in the order of the members. -/
def checkMembers (forms : List FieldForm) : List (String × Json) → Read Unit
  | [] => .ok ()
  | (key, v) :: ms =>
    match forms.find? fun f => f.name == key with
    | some f => do
      f.check v
      checkMembers forms ms
    | none => checkMembers forms ms

/-- The record with the given name and fields that an object or an array holds. -/
def ofJson (name : String) (forms : List FieldForm) : Json → Read Record
  | .object ms => do
    checkMembers forms ms
    pure ⟨name, forms.length, .members ms⟩
  | .array vs => .ok ⟨name, forms.length, .places vs⟩
  | v => .error (.wrongType v (.record name))

/-- What a missing field gives. -/
def missing {α : Type} (r : Record) (place : Nat) (f : Field α) : Read α :=
  match f.standIn with
  | some a => .ok a
  | none =>
    match r.source with
    | .members _ => .error (.missingField f.name)
    | .places _ => .error (.tooShort place r.name r.size)

/-- The value of a field, given its place among the fields. -/
def get {α : Type} (r : Record) (place : Nat) (f : Field α) : Read α :=
  let v? :=
    match r.source with
    | .members ms => Json.member? f.name ms
    | .places vs => vs[place]?
  match v? with
  | some v => f.read v
  | none => r.missing place f

/-- Refuses values after the last field; `tooMany` says of how many in all. -/
def finish (r : Record) (tooMany : Nat → Misfit) : Read Unit :=
  match r.source with
  | .members _ => .ok ()
  | .places vs => if r.size < vs.length then .error (tooMany vs.length) else .ok ()

end Record

end ControlPanel
