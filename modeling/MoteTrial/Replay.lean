import MoteTrial.Host
import MoteTrial.LogFile.Record

/-! # Replaying a recorded run

The lines of a log file become events that make their motes log the same lines again, at the same
times.
-/

namespace MoteTrial.Replay

open SimM Simulation

variable {κ μ : Type}

/-- Schedules records in order; motes are added as they occur. -/
def schedule : List LogFile.Record → SimM κ μ Unit
  | [] => pure ()
  | record :: rest => do
    let _ ← getMote record.mote
    scheduleAt record.time (.line record.mote record.msg)
    schedule rest

end MoteTrial.Replay
