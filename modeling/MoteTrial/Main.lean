import MoteTrial.Cli.Session
import Std.Time.DateTime
import Std.Time.Format

/-! # Command line

Runs a test from the command line. The files that the arguments point at are copied into a store, the
run is computed on it, and what the run wrote is copied back.
-/

namespace MoteTrial.Main

/-- The node at a path of the file system, if there is one. -/
def nodeAt? (path : String) : IO (Option Node) := do
  try
    return some (.file (← IO.FS.readBinFile path))
  catch _ =>
    try
      return if ← (← IO.FS.realPath path).isDir then some .folder else none
    catch _ => return none

/-- Copies what stands at every place on the way to a path into a store. -/
def copyIn (disk : Disk) (text : String) : IO Disk := do
  let path := Path.normal text
  let mut disk := disk
  for length in [1:path.length + 1] do
    let place := path.take length
    if let some node ← nodeAt? (Path.render place) then disk := disk.put place node
  return disk

/-- Copies what a run wrote back to the file system. -/
def copyOut (before after : Disk) : IO Unit := do
  for (place, node) in after.entries do
    match node, before.node? place with
    | .folder, none => IO.FS.createDirAll (Path.render place)
    | .folder, some _ => pure ()
    | .file content, some (.file old) =>
      if content.toList != old.toList then IO.FS.writeBinFile (Path.render place) content
    | .file content, _ => IO.FS.writeBinFile (Path.render place) content

/-- The files that an argument vector points at. -/
def gather (args : List String) : IO Disk := do
  match Cli.parse {} (.ofConfig {}) args with
  | .error _ => return {}
  | .ok options =>
    let disk ← match options.output with
      | .blank => pure {}
      | .value folder => copyIn {} folder
    match options.replay with
    | none => return disk
    | some path => copyIn disk path

/-- A session that starts at a point of time and whose second and later readings of the clock are
some milliseconds after the first. -/
def sessionAt (start : Std.Time.Timestamp) (elapsed : Nat) (disk : Disk) : Cli.Session :=
  let seconds := start.toSecondsSinceUnixEpoch.val
  let time := Std.Time.PlainDateTime.ofWallTime (start.toWallTime .zero)
  { stamp := time.format "uuuuMMdd_HHmmss"
    observer := { disk, clock := fun reading =>
      Binary64.ofRatio (seconds * 1000 + if reading = 0 then 0 else elapsed) 1000 } }

/-- The milliseconds that it takes to compute a run. -/
def timed (args : List String) (session : Cli.Session) : IO Nat := do
  let start ← IO.monoMsNow
  let _ ← IO.lazyPure fun _ => Cli.run args session
  return (← IO.monoMsNow) - start

end MoteTrial.Main

open MoteTrial MoteTrial.Main in
/-- Runs a test: first to learn how long it takes, then with a clock that shows it. -/
def main (args : List String) : IO UInt32 := do
  let now ← Std.Time.Timestamp.now
  let disk ← gather args
  let elapsed ← timed args (sessionAt now 0 disk)
  let (status, session, failure) := match Cli.run args (sessionAt now elapsed disk) with
    | .ok status s => (UInt32.ofNat status, s, none)
    | .error f s => (1, s, some f)
  IO.print session.observer.console
  IO.eprint session.errors
  copyOut disk session.observer.disk
  if let some f := failure then IO.eprintln (f.name ++ ": " ++ f.message)
  return status
