import MoteTrial.Experiment.Run
import MoteTrial.Main
import MoteTrial.Proofs.Reception.Test
import MoteTrial.Proofs.Replay.RecordReplay
import MoteTrial.Proofs.Schedule.FiringOrder
import MoteTrial.Proofs.WeakLink.Test
import MoteTrial.Proofs.Session.Clock
import MoteTrial.Proofs.Session.ControlledLink
import MoteTrial.Proofs.Session.Finality
import MoteTrial.Proofs.Session.Settlement
import MoteTrial.Proofs.Replay.LinkFault
import MoteTrial.Proofs.Replay.Reception
import MoteTrial.Proofs.Deadline.Test
import MoteTrial.Proofs.LogFile.Faults
import MoteTrial.Proofs.LogFile.RoundTrip
import MoteTrial.Proofs.Trace.Transparency
import MoteTrial.Proofs.Trace.Completeness
import MoteTrial.Proofs.Cli.Exit
import MoteTrial.Proofs.Schedule.Pause
import MoteTrial.Proofs.FanOut.Books
import MoteTrial.Proofs.FanOut.Order
import MoteTrial.Proofs.Reception.Coupling
import MoteTrial.Proofs.Firmware.Journal
import MoteTrial.Proofs.Firmware.Upkeep
import MoteTrial.Proofs.Firmware.Ledger
import MoteTrial.Proofs.Firmware.Protocol
import MoteTrial.Proofs.Reception.Holes
import MoteTrial.Proofs.Medium.LinkTable
import MoteTrial.Proofs.Medium.Audibility
import MoteTrial.Proofs.Session.Agreement
import MoteTrial.Proofs.Session.Rejections
import MoteTrial.Proofs.Trace.Statistics
import MoteTrial.Proofs.Trace.ReadBack
import MoteTrial.Proofs.Reception.Balance
import MoteTrial.Proofs.Firmware.Reports
import MoteTrial.Proofs.Replay.ClockLines
