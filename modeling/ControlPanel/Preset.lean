import ControlPanel.Widget.Basic

namespace ControlPanel

/-- A ready-made widget, found by its key. -/
structure Preset where
  key : String
  description : String
  name : String
  control : Control
deriving DecidableEq, Repr

namespace Preset

def infiniteYield : Preset where
  key := "infinite-yield"
  description := "Button that loads the Infinite Yield admin script"
  name := "Infinite Yield"
  control := .button
    "loadstring(game:HttpGet(\"https://raw.githubusercontent.com/EdgeIY/infiniteyield/master/source\"))()"

def walkSpeed : Preset where
  key := "walkspeed"
  description := "Slider bound to the local character's WalkSpeed"
  name := "WalkSpeed"
  control := .slider
    { min := ⟨0x4030000000000000⟩
      max := ⟨0x406F400000000000⟩
      value := ⟨0x4030000000000000⟩
      suffix := " Speed"
      callback := "game.Players.LocalPlayer.Character.Humanoid.WalkSpeed = Value" }

def jumpPower : Preset where
  key := "jumppower"
  description := "Slider bound to the local character's JumpPower"
  name := "JumpPower"
  control := .slider
    { min := ⟨0x4049000000000000⟩
      max := ⟨0x4072C00000000000⟩
      value := ⟨0x4049000000000000⟩
      suffix := " Power"
      callback := "game.Players.LocalPlayer.Character.Humanoid.JumpPower = Value" }

def fullBright : Preset where
  key := "fullbright"
  description := "Toggle that forces daytime lighting without shadows"
  name := "Fullbright"
  control := .toggle false
    ("local Lighting = game:GetService(\"Lighting\")\n" ++
      "if Value then\n" ++
      "\tLighting.Brightness = 2\n" ++
      "\tLighting.ClockTime = 14\n" ++
      "\tLighting.GlobalShadows = false\n" ++
      "else\n" ++
      "\tLighting.Brightness = 1\n" ++
      "\tLighting.GlobalShadows = true\n" ++
      "end")

def rejoin : Preset where
  key := "rejoin"
  description := "Button that teleports the player back into the same place"
  name := "Rejoin"
  control := .button
    "game:GetService(\"TeleportService\"):Teleport(game.PlaceId, game.Players.LocalPlayer)"

/-- All presets, in the order in which they are listed. -/
def all : List Preset :=
  [infiniteYield, walkSpeed, jumpPower, fullBright, rejoin]

/-- The preset with the key, whatever the case of its letters and the white space around it. -/
def find? (key : String) : Option Preset :=
  let key := Text.trim key
  all.find? fun p => Text.sameIgnoringCase p.key key

/-- A widget made from the preset. -/
def instantiate (p : Preset) (id : WidgetId) : Widget where
  id
  name := p.name
  control := p.control

/-- The keys padded to one width, each with its description on a line of its own. -/
def listing : String :=
  let width := (all.map fun p => p.key.length).foldl max 0
  let line (p : Preset) : String :=
    p.key ++ String.ofList (List.replicate (width - p.key.length) ' ') ++ "  " ++ p.description ++
      "\n"
  String.join (all.map line)

end Preset

end ControlPanel
