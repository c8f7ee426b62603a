import ControlPanel.Command.Error

namespace ControlPanel

namespace Selector

/-- The number that decimal digits write. -/
def digitsNumber (ds : List Char) : Nat :=
  ds.foldl (fun n c => 10 * n + (c.toNat - '0'.toNat)) 0

/-- The digits of a position, which may follow a plus sign. -/
def digits : List Char → List Char
  | '+' :: cs => cs
  | cs => cs

/-- The position that a text writes, if it is below `2 ^ 64`. -/
def position? (s : String) : Option Nat :=
  let ds := digits s.toList
  if ds ≠ [] ∧ ds.all Char.isDigit ∧ digitsNumber ds < Nat.pow 2 64 then some (digitsNumber ds)
  else none

end Selector

/-- The tab that a selector names. White space around it does not count, and a position goes
before an identifier. -/
def Document.select (d : Document) (selector : String) : Except CommandError TabId :=
  let selector := Text.trim selector
  match (Selector.position? selector).bind d.tabAt? with
  | some t => .ok t.id
  | none =>
    match TabId.ofText selector with
    | .error e => .error (.selector e)
    | .ok id =>
      match d.tab? id with
      | some t => .ok t.id
      | none => .error (.noSuchTab selector d.tabs.length)

end ControlPanel
