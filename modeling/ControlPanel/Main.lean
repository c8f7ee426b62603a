import ControlPanel.Command.Terminal
import Std.Time.DateTime.Timestamp

/-!
The only module with effects outside: files, variables of the environment, random identifiers, the
clock and the terminal.
-/

namespace ControlPanel

/-- The storage error that an error of the operating system stands for. -/
def StorageError.ofSystem : IO.Error → StorageError
  | .noFileOrDirectory .. => .notFound
  | .alreadyExists .. => .occupied
  | .inappropriateType _ code details =>
    if code = 20 then .notDirectory else if code = 21 then .isDirectory else .other details
  | .invalidArgument _ code details =>
    if code = 36 then .nameTooLong else if code = 22 then .nulInName else .other details
  | error => .other (toString error)

/-- Runs an action and gives the error of the operating system as a value. -/
def attemptSystem {α : Type} (action : IO α) : IO (Except StorageError α) := do
  try
    let a ← action
    pure (.ok a)
  catch error => pure (.error (.ofSystem error))

instance : FileAccess IO where
  readText path := do
    let read : IO ByteArray := do
      let handle ← IO.FS.Handle.mk path .read
      handle.readBinToEnd
    match ← attemptSystem read with
    | .error e => pure (.error e)
    | .ok bytes =>
      match String.fromUTF8? bytes with
      | some text => pure (.ok text)
      | none => pure (.error .notText)
  writeText path text := attemptSystem (IO.FS.writeFile path text)
  makeDirectory path := attemptSystem (IO.FS.createDir path)
  contains path := do
    match ← attemptSystem (IO.FS.Handle.mk path .read) with
    | .error .notFound => pure false
    | .error .notDirectory => pure false
    | .error .nameTooLong => pure false
    | .error .nulInName => pure false
    | _ => pure true

/-- The text of a random identifier: hexadecimal digits in groups of 8, 4, 4, 4 and 12. -/
def identifierText (bytes : ByteArray) : String :=
  let marked (b : UInt8) (i : Nat) : UInt8 :=
    if i = 6 then (b &&& 0x0f) ||| 0x40 else if i = 8 then (b &&& 0x3f) ||| 0x80 else b
  let digits (b : UInt8) : List Char := [Nat.digitChar (b.toNat / 16), Nat.digitChar (b.toNat % 16)]
  let group (b : UInt8) (i : Nat) : List Char :=
    if i = 4 ∨ i = 6 ∨ i = 8 ∨ i = 10 then '-' :: digits (marked b i) else digits (marked b i)
  String.ofList (bytes.toList.zipIdx.flatMap fun (b, i) => group b i)

/-- The variables that settings may come from, with their values. -/
def settingsVariables : IO (List (String × Option String)) :=
  ["RAYFORGE_LIBRARY_URL", "RAYFORGE_OUTPUT_DIR", "RAYFORGE_SCRIPT_FILE",
    "RAYFORGE_PROJECTS_DIR"].mapM fun name => do
      let value ← IO.getEnv name
      pure (name, value)

end ControlPanel

def main (arguments : List String) : IO UInt32 := do
  let values ← ControlPanel.settingsVariables
  let home ← IO.getEnv "HOME"
  let bytes ← IO.getRandomBytes 16
  let now ← Std.Time.Timestamp.now
  let around : ControlPanel.Surroundings :=
    { lookup := fun name => (values.lookup name).join
      home := home
      freshId := ControlPanel.identifierText bytes
      millis := now.toMillisecondsSinceUnixEpoch.val }
  let outcome ← ControlPanel.CommandLine.run around arguments
  IO.print outcome.stdout
  IO.eprint outcome.stderr
  pure (UInt32.ofNat outcome.code)
