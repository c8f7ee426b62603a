import ControlPanel.Main
import ControlPanel.Proofs.Command.Run
import ControlPanel.Proofs.Script.Bindings
import ControlPanel.Proofs.Script.ReadBack
import ControlPanel.Proofs.Session.InPlace
import ControlPanel.Proofs.Script.InPlace
import ControlPanel.Proofs.Script.Locality
import ControlPanel.Proofs.Command.Removal
import ControlPanel.Proofs.Command.Saving
import ControlPanel.Proofs.Number.Interval
import ControlPanel.Proofs.Number.Point
import ControlPanel.Proofs.Number.Fewest
import ControlPanel.Proofs.Number.Rounding
import ControlPanel.Proofs.Script.Numbers
import ControlPanel.Proofs.Document.Breach
import ControlPanel.Proofs.Document.Lookup
import ControlPanel.Proofs.Document.Undo
import ControlPanel.Proofs.Command.Line
