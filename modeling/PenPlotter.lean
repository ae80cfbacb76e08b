import PenPlotter.Files.WriteText
import PenPlotter.Main
import PenPlotter.Proofs.CommandLine.Unhandled
import PenPlotter.Proofs.Double.Doubling
import PenPlotter.Proofs.Program.Box
import PenPlotter.Proofs.Program.Breaks
import PenPlotter.Proofs.Program.Chains
import PenPlotter.Proofs.Program.Grounding
import PenPlotter.Proofs.Program.Growth
import PenPlotter.Proofs.Program.Loaded
import PenPlotter.Proofs.Program.Placeable
import PenPlotter.Proofs.Program.Rescaled
import PenPlotter.Proofs.Program.Strokes
import PenPlotter.Proofs.Program.Translation
import PenPlotter.Proofs.Replay.Accuracy
import PenPlotter.Proofs.Replay.Anew
import PenPlotter.Proofs.Replay.Exported
import PenPlotter.Proofs.Replay.Feeds
import PenPlotter.Proofs.Replay.Paths
import PenPlotter.Proofs.Replay.PenCommands
import PenPlotter.Proofs.Session.Debounce
import PenPlotter.Proofs.Session.Failure
import PenPlotter.Proofs.Session.Publication
import PenPlotter.Proofs.Settings.Merging
import PenPlotter.Proofs.Files.Frame
import PenPlotter.Proofs.Settings.Presentation
import PenPlotter.Proofs.Drawing.Entries
import PenPlotter.Proofs.Settings.Failures
import PenPlotter.Proofs.Drawing.Interrupted
import PenPlotter.Proofs.Drawing.Listening
import PenPlotter.Proofs.Program.Reprinted
import PenPlotter.Proofs.Drawing.Extremes
import PenPlotter.Proofs.Log.Handlers
import PenPlotter.Proofs.Log.Members
