import MoteTrial.Cli.Options
import MoteTrial.LogFile.Content
import MoteTrial.Trace.Summary

/-! # Runs from the command line

One run: read the options, set the parameters, make the trace, build the network or the replay, run
the script, report. A failure while building or running the script is reported and gives the exit
status 1; a failure while making the trace or its summary goes out to the caller.
-/

namespace MoteTrial.Cli

open SimM

/-- What lasts from one run to the next: the parameters, the console with files and clock, and the
text written to the error stream. -/
structure Session where
  config : Config := {}
  defaults : Defaults := .ofConfig config
  observer : Observer := {}
  errors : String := ""
  /-- The date and time that trace names start with. -/
  stamp : String := ""

/-- An operation of a session. What it did before a failure stays done. -/
abbrev SessionM := EStateM Failure Session

/-- The usage text. -/
def usage : String :=
  "usage: motescript [-h] [--script \x7blink-fault,reception\x7d] [--replay REPLAY]\n" ++
  "                  [--seed SEED] [--run RUN] [--prr PRR] [--counters COUNTERS]\n" ++
  "                  [--timeout TIMEOUT] [--output OUTPUT] [--no-trace]\n"

/-- The help text. -/
def help : String :=
  usage ++ "\noptions:\n" ++
  "  -h, --help            show this help message and exit\n" ++
  "  --script \x7blink-fault,reception\x7d\n" ++
  "  --replay REPLAY       mote log export to replay\n" ++
  "  --seed SEED\n" ++
  "  --run RUN\n" ++
  "  --prr PRR             client-server PRR (reception scenario)\n" ++
  "  --counters COUNTERS   client counter limit\n" ++
  "  --timeout TIMEOUT     script deadline (ms)\n" ++
  "  --output OUTPUT\n" ++
  "  --no-trace\n"

/-- A world for command-line runs. The only code in it is a script that stands for a built-in one
whose deadline is blank. -/
abbrev PlainWorld := World Unit Unit

/-- A script without a deadline fails as soon as it is set up. -/
def behaviour : Behaviour Unit Unit := fun _ _ => SimM.fail (.blank .deadline)

/-- The number of events that one run may fire. -/
def eventLimit : Nat := 2 ^ 60

/-- Writes a line to the console. -/
def say (text : String) : SessionM Unit :=
  modify fun s => { s with observer := s.observer.print (text ++ "\n") }

/-- Carries out an operation on the observer. -/
def onObserver {α : Type} (m : ObserverM α) : SessionM α := fun s =>
  match m s.observer with
  | .ok a observer => .ok a { s with observer }
  | .error f observer => .error f { s with observer }

/-- The text of an integer. -/
def number (n : Int) : SessionM String :=
  match writeInt n with
  | .ok text => pure text
  | .error f => throw f

/-- How the run shows the replayed file: nothing given is a hyphen. -/
def shownReplay (o : Options) : String :=
  match o.replay with
  | none => "-"
  | some path => if path = "" then "-" else path

/-- What stands for a blank option. -/
def blankText : String := "[]"

/-- The text of an integer option. -/
def shownNumber : Setting Int → SessionM String
  | .blank => pure blankText
  | .value n => number n

/-- The text of the script option. -/
def shownScript : Setting ScriptName → String
  | .blank => blankText
  | .value name => name.text

/-- The value of an option that must not be blank. -/
def require {α : Type} (option : Blank) (setting : Setting α) : SessionM α :=
  match setting.require option with
  | .ok a => pure a
  | .error f => throw f

/-- Keeps the options that hold for later runs as well. -/
def adopt (o : Options) : SessionM Unit :=
  modify fun s => { s with defaults := ⟨o.seed, o.run, o.output, !o.noTrace⟩ }

/-- The name of a run. -/
def runId (stamp : String) (o : Options) : SessionM String := do
  return stamp ++ "_" ++ shownScript o.script ++ "_seed" ++ (← shownNumber o.seed) ++ "_run" ++
    (← shownNumber o.run)

/-- Makes the trace of a run. -/
def startTrace (o : Options) : SessionM (Option Nat) := do
  if o.noTrace then return none
  let id ← modifyGet fun s =>
    let (id, observer) := s.observer.newTrace
    (id, { s with observer })
  let name ← runId (← get).stamp o
  onObserver (Observer.startFiles id name (← require .folder o.output))
  return some id

/-- Reads the log file to be replayed. -/
def loadLog (path : String) : ObserverM (List LogFile.Record) := do
  let content ← Observer.onDisk (Disk.read path)
  match LogFile.ofBytes content.toList with
  | .ok records => return records
  | .error f => throw f

/-- Carries out an operation on a new world and puts its observer back. -/
def inWorld {α : Type} (world : PlainWorld) (m : SimM Unit Unit α) :
    ObserverM (α × PlainWorld) := fun observer =>
  match m { world with observer } with
  | .ok a w => .ok (a, w) w.observer
  | .error (.failure f) w => .error f w.observer
  | .error .exhausted w => .error (.raised "Exhausted" "too many events") w.observer

/-- A fresh world. -/
def freshWorld (config : Config) (seed : Int) : ObserverM PlainWorld := do
  match World.ofSeed config (some seed) (← get) () with
  | .ok world => return world
  | .error f => throw f

/-- The ratio option as it is given to a link. -/
def amount : Setting Binary64 → Amount
  | .blank => .blank
  | .value ratio => .double ratio

/-- Builds the network of a script. -/
def network (name : ScriptName) (o : Options) : SimM Unit Unit Unit :=
  match name, o.counters with
  | .linkFault, none => Scenario.buildWeakLink none
  | .linkFault, some (.value limit) => Scenario.buildWeakLink (some limit)
  | .linkFault, some .blank => Scenario.weakLinkNetwork .blankClient
  | .reception, none => Scenario.buildReception (some (amount o.ratio)) none
  | .reception, some (.value limit) =>
    Scenario.buildReception (some (amount o.ratio)) (some limit)
  | .reception, some .blank => Scenario.receptionNetwork .blankClient (some (amount o.ratio))

/-- Builds the network or the replay of a run. -/
def build (config : Config) (seed : Int) (name : ScriptName) (o : Options) :
    ObserverM PlainWorld := do
  match o.replay with
  | some path =>
    if path = "" then
      return (← inWorld (← freshWorld config seed) (network name o)).2
    else
      let records ← loadLog path
      modify (·.print ("Replaying " ++ toString records.length ++ " events from " ++ path ++ "\n"))
      return (← inWorld (← freshWorld config seed) (Replay.schedule records)).2
  | none => return (← inWorld (← freshWorld config seed) (network name o)).2

/-- The script of a run. -/
def script (config : Config) (name : ScriptName) : Option (Setting Int) → Script Unit
  | none => name.script config none
  | some (.value timeout) => name.script config (some timeout)
  | some .blank => .code ()

/-- Builds a network or replay and runs the script on it. -/
def runTest (config : Config) (seed : Int) (name : ScriptName) (o : Options)
    (trace : Option Nat) : ObserverM (TestLog × PlainWorld) := do
  let world ← build config seed name o
  let (h, world) ← inWorld world
    (Scenario.runScript behaviour eventLimit (script config name o.timeout) trace true)
  return ((world.hosts[h]?.map (·.log)).getD {}, world)

/-- The word for a verdict that may be open. -/
def verdictWord : Option Verdict → String
  | none => "None"
  | some verdict => verdict.name

/-- Reports how a run ended. -/
def report (name : ScriptName) (log : TestLog) (world : PlainWorld) : SessionM Unit := do
  say ("\n─── " ++ name.text ++ " ───")
  say ("Verdict:        " ++ verdictWord log.verdict)
  say ("Sim time:       " ++ (← number world.now) ++ "ms")
  say ("Events:         " ++ toString world.scheduler.processed)
  if log.reason ≠ "" then say ("Reason:         " ++ log.reason)

/-- Closes the trace of a run and reports its statistics. -/
def reportTrace (id : Nat) : SessionM Unit := do
  let summary ← onObserver (Observer.summarize id)
  let statistics := summary.statistics
  if statistics.received ≠ 0 then
    say ("Received:       " ++ toString statistics.received)
    say ("Lost:           " ++ (← number statistics.lost) ++ " (" ++
      statistics.lossRate.percent ++ ")")
  let folder := ((← get).observer.trace id).folder
  say ("Traces in:      " ++ Observer.fileName folder)

/-- Runs a test with given options; the answer is the exit status. -/
def runWith (o : Options) : SessionM Nat := do
  adopt o
  say ("🔧 Configuration: script=" ++ shownScript o.script ++ ", seed=" ++
    (← shownNumber o.seed) ++ ", run=" ++ (← shownNumber o.run) ++ ", replay=" ++ shownReplay o)
  let seed ← require .seed o.seed
  if seed < 0 || 2 ^ 32 ≤ seed then throw .seedRange
  let trace ← startTrace o
  let name ← require .script o.script
  let s ← get
  match runTest s.config seed name o trace s.observer with
  | .error f observer =>
    set { s with observer }
    say ("❌ Test run failed: " ++ f.message)
    return 1
  | .ok (log, world) observer =>
    set { s with observer }
    report name log world
    match trace with
    | none => pure ()
    | some id => reportTrace id
    return if log.passed then 0 else 1

/-- Carries out one run; the answer is the exit status, 2 if the arguments are refused. -/
def run (args : List String) : SessionM Nat := do
  let s ← get
  match parse s.config s.defaults args with
  | .ok o => runWith o
  | .error .help =>
    modify fun s => { s with observer := s.observer.print help }
    return 0
  | .error (.usage e) =>
    modify fun s =>
      { s with errors := s.errors ++ usage ++ "motescript: error: " ++ e.message ++ "\n" }
    return 2

end MoteTrial.Cli
