namespace ControlPanel

/-- Whether the finished script keeps the values of its controls, and where. -/
structure ConfigurationSaving where
  enabled : Bool := true
  folderName : String := "Rayfield Interface Suite"
  fileName : String := "Big Hub"
deriving DecidableEq, Repr

/-- What the key prompt shows and accepts. -/
structure KeySettings where
  title : String := "Sirius Hub"
  subtitle : String := "Key System"
  note : String := "Join the discord (discord.gg/sirius)"
  fileName : String := "SiriusKey"
  saveKey : Bool := true
  grabbingKey : String := "Kopied Key"
  key : String := "Hello"
deriving DecidableEq, Repr

/-- The settings of the window. Those of the key matter only while `keySystem` is set. -/
structure Window where
  name : String := "Rayfield UI"
  loadingTitle : String := "Rayfield Interface Suite"
  loadingSubtitle : String := "by Sirius"
  configurationSaving : ConfigurationSaving := {}
  keySystem : Bool := false
  keySettings : KeySettings := {}
deriving DecidableEq, Repr

end ControlPanel
