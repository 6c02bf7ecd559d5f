import MoteTrial.Csv
import MoteTrial.Text.Blank
import MoteTrial.Trace.Basic

/-! # Observer of a run

All that looks at a run without taking part in it: the console, the files, the clock, and the traces
that are being collected. A run writes to its observer and never reads it. Rows that cannot be
written to their file stay in memory, and the console says so.
-/

namespace MoteTrial

/-- The console, the files, the clock and the traces. -/
structure Observer where
  console : String := ""
  disk : Disk := {}
  /-- What the clock shows at each reading. -/
  clock : Nat → Binary64 := fun reading => Binary64.ofScaled (2000 + reading) 1
  readings : Nat := 0
  traces : Array Trace := #[]

instance : Inhabited Observer := ⟨{}⟩

/-- An operation on the observer. What it did before a failure stays done. -/
abbrev ObserverM := EStateM Failure Observer

namespace Observer

/-- Writes text to the console. -/
def print (o : Observer) (text : String) : Observer := { o with console := o.console ++ text }

/-- Changes a trace. -/
def modifyTrace (o : Observer) (id : Nat) (f : Trace → Trace) : Observer :=
  { o with traces := o.traces.modify id f }

/-- Adds an empty trace and returns its number. -/
def newTrace (o : Observer) : Nat × Observer :=
  (o.traces.size, { o with traces := o.traces.push {} })

/-- A trace. -/
def trace (o : Observer) (id : Nat) : Trace := o.traces.getD id {}

/-- An operation on the files. -/
def onDisk {α : Type} (m : DiskM α) : ObserverM α := fun o =>
  match m o.disk with
  | .ok a disk => .ok a { o with disk }
  | .error f disk => .error f { o with disk }

/-- Reads the clock. -/
def readClock : ObserverM Binary64 :=
  modifyGet fun o => (o.clock o.readings, { o with readings := o.readings + 1 })

/-- Appends a record to a file. -/
def appendRecord (path : Path) (fields : Except Failure (List String)) : DiskM Unit := do
  Disk.append path.render ""
  match fields with
  | .ok texts => Disk.append path.render (Csv.record texts)
  | .error f => throw f

/-- Writes a record to the file of a stream, if there is one; the console tells of a failure. -/
def writeRow (o : Observer) (id : Nat) (stream : Stream)
    (fields : Except Failure (List String)) : Observer :=
  match (o.trace id).file? stream with
  | none => o
  | some path =>
    match onDisk (appendRecord path fields) o with
    | .ok _ o => o
    | .error f o => o.print ("Error writing to " ++ path.render ++ ": " ++ f.message ++ "\n")

/-- Records a line of the script log without the line ends after it. -/
def recordLog (o : Observer) (id : Nat) (time mote : Int) (text : String) : Observer :=
  let row : LogRow := ⟨time, mote, String.ofList (Text.trimEnd (· == '\n') text.toList)⟩
  (o.modifyTrace id (·.addLog row)).writeRow id .log row.fields

/-- Records the accounting of a received counter. -/
def recordReception (o : Observer) (id : Nat) (row : ReceptionRow) : Observer :=
  (o.modifyTrace id (·.addReception row)).writeRow id .reception row.fields

/-- Records a change made to a link. -/
def recordLink (o : Observer) (id : Nat) (row : LinkRow) : Observer :=
  (o.modifyTrace id (·.addLink row)).writeRow id .link row.fields

/-- Makes the file of a stream, with the names of the columns as its first record. -/
def createFile (id : Nat) (folder : Path) (runId : String) (stream : Stream) : ObserverM Unit := do
  let path := folder ++ Path.normal (stream.fileStem ++ runId ++ ".csv")
  onDisk (Disk.write path.render (Csv.record stream.columns))
  modify (·.modifyTrace id (·.setFile stream path))

/-- Gives a trace its files, in a folder that is made if it is missing. -/
def startFiles (id : Nat) (runId folder : String) : ObserverM Unit := do
  let folder := Path.normal folder
  modify (·.modifyTrace id fun t => { t with runId := some runId, folder := some folder })
  onDisk (Disk.makeFolders folder)
  createFile id folder runId .log
  createFile id folder runId .reception
  createFile id folder runId .link
  let now ← readClock
  modify (·.modifyTrace id fun t => { t with started := some now })

end Observer

end MoteTrial
