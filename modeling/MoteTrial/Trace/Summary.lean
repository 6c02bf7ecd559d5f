import MoteTrial.Observer
import MoteTrial.Trace.Json
import MoteTrial.Trace.Statistics

/-! # Summary of a run

The report that closes a trace: what the run was, how it ended, how many rows there are, and the
loss statistics. With files it is also written as JSON beside them.
-/

namespace MoteTrial

/-- The closing report of a trace. -/
structure Summary where
  runId : Option String
  verdict : Option String
  logLines : Nat
  linkEvents : Nat
  endTime : Int
  wallSeconds : Binary64
  statistics : LossStatistics
  /-- The files of the three streams, where the trace has a folder. -/
  files : Option (List (String × String))
  deriving Inhabited

namespace Summary

/-- A text that may be missing. -/
def optional : Option String → JsonValue
  | none => .null
  | some text => .text text

/-- The report as JSON. -/
def toJson (s : Summary) : JsonValue :=
  .object ([
    ("run_id", optional s.runId),
    ("verdict", optional s.verdict),
    ("total_log_lines", .integer s.logLines),
    ("total_link_events", .integer s.linkEvents),
    ("sim_time_ms", .integer s.endTime),
    ("wall_clock_seconds", .number s.wallSeconds),
    ("reception", .object [
      ("received", .integer s.statistics.received),
      ("lost", .integer s.statistics.lost),
      ("loss_rate", .number s.statistics.lossRate),
      ("mean_gap", .number s.statistics.meanGap),
      ("max_gap", .integer s.statistics.maxGap)])] ++
    match s.files with
    | none => []
    | some files => [("trace_files", .object (files.map fun file => (file.1, .text file.2)))])

end Summary

namespace Observer

/-- How a report names the file of a stream. -/
def fileName : Option Path → String
  | none => "None"
  | some path => path.render

/-- Writes text and then fails if it was cut short. -/
def writeUpTo (path : String) (content : String × Option Failure) : DiskM Unit := do
  Disk.write path content.1
  match content.2 with
  | none => return
  | some f => throw f

/-- Closes a trace with a report, which is written to a file if the trace has a folder. -/
def summarize (id : Nat) : ObserverM Summary := do
  let now ← readClock
  let start ← match ((← get).trace id).started with
    | some start => pure start
    | none => readClock
  let wallSeconds := now.sub start
  modify (·.modifyTrace id fun t => { t with wallSeconds })
  let t := (← get).trace id
  let statistics ← match t.statistics with
    | .ok statistics => pure statistics
    | .error f => throw f
  let summary : Summary := {
    runId := t.runId
    verdict := t.verdict
    logLines := t.logRows.size
    linkEvents := t.linkRows.size
    endTime := t.endTime
    wallSeconds
    statistics
    files := t.folder.map fun _ => [("script_log", fileName t.logFile),
      ("reception", fileName t.receptionFile), ("link_events", fileName t.linkFile)] }
  match t.folder with
  | none => return summary
  | some folder =>
    let path := folder ++ Path.normal ("run_summary_" ++ t.runId.getD "None" ++ ".json")
    onDisk (writeUpTo path.render summary.toJson.write)
    return summary

end Observer

end MoteTrial
