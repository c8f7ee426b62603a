import ControlPanel.Proofs.Script.Determined

namespace ControlPanel

open Script Registration

namespace Script

/-- A method with the arguments that it is called with. -/
structure Invocation where
  method : String
  arguments : String
deriving DecidableEq, Repr

/-- A statement of a script: it binds a target to a value, or calls a method of it. -/
inductive Statement where
  | bind (isLocal : Bool) (target value : String)
  | call (target : String) (invocation : Invocation)
deriving DecidableEq, Repr

namespace Statement

def target : Statement → String
  | bind _ target _ => target
  | call target _ => target

def isLocal : Statement → Bool
  | bind isLocal _ _ => isLocal
  | call _ _ => false

/-- What the text of a statement has after its target. -/
def content : Statement → String
  | bind _ _ value => " = " ++ value ++ "\n"
  | call _ invocation => ":" ++ invocation.method ++ "(" ++ invocation.arguments ++ ")\n"

def text (s : Statement) : String :=
  (if s.isLocal then "local " else "") ++ s.target ++ s.content

end Statement

end Script

namespace Script

section Targets

theorem toString_nat_injective : Function.Injective (toString : Nat → String) := by
  intro m n h
  have hdigits : Nat.toDigits 10 m = Nat.toDigits 10 n := by
    rw [← toList_toString, ← toList_toString, h]
  calc
    m = Nat.ofDigitChars 10 (Nat.toDigits 10 m) 0 := Nat.ofDigitChars_ten_toDigits.symm
    _ = Nat.ofDigitChars 10 (Nat.toDigits 10 n) 0 := by rw [hdigits]
    _ = n := Nat.ofDigitChars_ten_toDigits

theorem toList_tabLocal (index : Nat) :
    (tabLocal index).toList = 'T' :: 'a' :: 'b' :: Nat.toDigits 10 (index + 1) := by
  rw [tabLocal, String.toList_append, toList_toString]
  rfl

theorem toList_tabSlot (index : Nat) :
    (tabSlot index).toList =
      'T' :: 'a' :: 'b' :: 's' :: '[' :: (Nat.toDigits 10 (index + 1) ++ [']']) := by
  rw [tabSlot, String.toList_append, String.toList_append, toList_toString]
  rfl

theorem targets_injective (tabled : Bool) : Function.Injective (target tabled) := by
  intro i j h
  have hindex : toString (i + 1) = toString (j + 1) := by
    cases tabled with
    | false =>
        have hlocal : (tabLocal i).toList = (tabLocal j).toList := congrArg String.toList h
        rw [toList_tabLocal, toList_tabLocal] at hlocal
        simpa [← String.toList_inj, toList_toString] using hlocal
    | true =>
        have hslot : (tabSlot i).toList = (tabSlot j).toList := congrArg String.toList h
        rw [toList_tabSlot, toList_tabSlot] at hslot
        simpa [← String.toList_inj, toList_toString] using hslot
  exact Nat.succ.inj (toString_nat_injective hindex)

end Targets

section Calls

variable {w : Widget} {tab text : String}

end Calls

section Tabs

variable {tabled : Bool} {index : Nat}

end Tabs

section Prologue

end Prologue

end Script

end ControlPanel
