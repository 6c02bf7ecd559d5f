import MoteTrial.Disk
import MoteTrial.Reception

/-! # Traces

What is collected about a run: the lines of the script log, the accounting of received counters, and
the changes made to links. A trace keeps its rows in memory and, once it has files, in three CSV
files as well.
-/

namespace MoteTrial

/-- A line that was written to the script log; mote -1 stands for the script itself. -/
structure LogRow where
  time : Int
  mote : Int
  text : String
  deriving DecidableEq, Repr, Inhabited

/-- The accounting of one received counter. -/
structure ReceptionRow where
  time : Int
  counter : Int
  lost : Int
  last : Int
  gap : Int
  deriving DecidableEq, Repr, Inhabited

/-- A change made to a link. -/
structure LinkRow where
  time : Int
  action : String
  first : Int
  second : Int
  deriving DecidableEq, Repr, Inhabited

/-- The three streams of a trace. -/
inductive Stream where
  | log
  | reception
  | link
  deriving DecidableEq, Repr

/-- The first word in the name of a stream's file. -/
def Stream.fileStem : Stream → String
  | .log => "script_log_"
  | .reception => "reception_"
  | .link => "link_events_"

/-- The names of a stream's columns. -/
def Stream.columns : Stream → List String
  | .log => ["timestamp_ms", "mote_id", "text"]
  | .reception => ["timestamp_ms", "counter", "lost_counters", "last_counter", "gap"]
  | .link => ["timestamp_ms", "action", "mote_a", "mote_b"]

/-- The fields of a log row. -/
def LogRow.fields (row : LogRow) : Except Failure (List String) := do
  return [← writeInt row.time, ← writeInt row.mote, row.text]

/-- The fields of a reception row. -/
def ReceptionRow.fields (row : ReceptionRow) : Except Failure (List String) := do
  return [← writeInt row.time, ← writeInt row.counter, ← writeInt row.lost, ← writeInt row.last,
    ← writeInt row.gap]

/-- The fields of a link row. -/
def LinkRow.fields (row : LinkRow) : Except Failure (List String) := do
  return [← writeInt row.time, row.action, ← writeInt row.first, ← writeInt row.second]

/-- A trace of a run. -/
structure Trace where
  logRows : Array LogRow := #[]
  receptionRows : Array ReceptionRow := #[]
  linkRows : Array LinkRow := #[]
  runId : Option String := none
  /-- The folder of the files. -/
  folder : Option Path := none
  /-- The clock when the files were made. -/
  started : Option Binary64 := none
  logFile : Option Path := none
  receptionFile : Option Path := none
  linkFile : Option Path := none
  /-- The simulated time at which the run ended. -/
  endTime : Int := 0
  /-- The seconds between the making of the files and the last summary. -/
  wallSeconds : Binary64 := Binary64.zero
  verdict : Option String := none
  deriving Inhabited

namespace Trace

/-- The file of a stream. -/
def file? (t : Trace) : Stream → Option Path
  | .log => t.logFile
  | .reception => t.receptionFile
  | .link => t.linkFile

/-- Sets the file of a stream. -/
def setFile (t : Trace) (stream : Stream) (path : Path) : Trace :=
  match stream with
  | .log => { t with logFile := some path }
  | .reception => { t with receptionFile := some path }
  | .link => { t with linkFile := some path }

/-- Keeps a log row. -/
def addLog (t : Trace) (row : LogRow) : Trace := { t with logRows := t.logRows.push row }

/-- Keeps a reception row. -/
def addReception (t : Trace) (row : ReceptionRow) : Trace :=
  { t with receptionRows := t.receptionRows.push row }

/-- Keeps a link row. -/
def addLink (t : Trace) (row : LinkRow) : Trace := { t with linkRows := t.linkRows.push row }

/-- Notes how a run ended. -/
def close (t : Trace) (verdict : Option String) (endTime : Int) : Trace :=
  { t with verdict, endTime }

end Trace

end MoteTrial
