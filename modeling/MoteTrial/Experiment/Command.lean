import MoteTrial.Scenario

/-! # Experiments

A small language for driving a simulation by hand: commands that build, inspect and run it, and code
that is itself made of commands (callbacks, listeners) or of actions (probe scripts). An experiment
keeps notes of what its code saw and did.
-/

namespace MoteTrial.Experiment

/-- What a probe script does on its host. -/
inductive Action where
  | pass
  | fail (reason : String)
  | write (text : String) (mote : Int)
  | stop
  | emit (mote : Int) (msg : String)
  /-- Registers the deadline, with or without actions of its own. -/
  | deadline (after : Int) (actions : Option (List Action))
  | raise (name text : String)
  /-- Writes the time, the mote and the line being handled. -/
  | whereabouts
  deriving Inhabited

/-- What a probe script does with lines that contain a pattern. -/
structure Rule where
  pattern : String
  actions : List Action
  /-- Whether the script is done then. -/
  answer : Bool
  deriving Inhabited

/-- A test script of an experiment. -/
inductive ScriptSpec where
  | builtIn (name : ScriptName) (timeout : Option Int)
  | probe (setup : List Action) (rules : List Rule)
  deriving Inhabited

/-- The commands of an experiment. -/
inductive Command where
  | addMote (id : Int) (firmware : Option Firmware)
  | getMote (id : Int)
  | install (id : Int) (firmware : Firmware)
  | boot (id : Int)
  | receive (id source : Int) (payload : Payload)
  | log (id : Int) (msgs : List String)
  | schedule (delay : Int) (tag : Option String) (body : List Command)
  | scheduleAt (time : Int) (tag : Option String) (body : List Command)
  | listen (tag : Option String) (pattern : Option String) (body : List Command)
  | bootAll
  | step
  | run (bound : Option Int)
  | stop
  | raise (text : String)
  | replay (lines : List String)
  | state
  | traceTo (runId : Option String) (folder : String)
  | showTrace
  | attach (host : String) (script : ScriptSpec) (echo ownLog : Bool)
  | start (host : String)
  | runHost (host : String)
  | registerDeadline (host : String) (after : Int) (tag : Option String) (body : List Command)
  | showHost (host : String)
  | addLink (a b : Int) (ratio : Option Amount)
  | getLink (a b : Int)
  | hasLink (a b : Int)
  | linkQuality (a b : Int)
  | change (kind : Change) (a b : Int)
  | transmit (a b : Int) (frames : Nat)
  | showMedium
  deriving Inhabited

/-- The code of an experiment. -/
inductive Code where
  /-- A callback that notes its tag, if it has one, and carries out commands. -/
  | task (tag : Option String) (body : List Command)
  /-- A listener that notes a line under its tag, if it has one, and carries out commands if the
  line contains the pattern. -/
  | tap (tag : Option String) (pattern : Option String) (body : List Command)
  /-- A probe script. -/
  | probe (setup : List Action) (rules : List Rule)
  /-- Actions at the deadline of a probe script. -/
  | actions (actions : List Action)
  /-- A listener that keeps all lines. -/
  | recorder
  deriving Inhabited

/-- The state of a simulation as an experiment shows it. -/
structure Snapshot where
  seed : Int
  now : Int
  pending : Nat
  processed : Nat
  stopped : Bool
  listeners : Nat
  medium : Medium
  motes : List (Int × Mote)

/-- The answers of commands. -/
inductive Reply where
  | nothing
  | flag (value : Bool)
  | number (value : Int)
  | text (value : String)
  | ratio (value : Binary64)
  | link (value : Link)
  | medium (value : Medium)
  | state (value : Snapshot)
  | trace (value : Option Trace)
  | verdict (value : Option Verdict)
  | host (index : Nat) (value : Host Code) (now : Int)

/-- What the code of an experiment notes. -/
inductive Note where
  | line (tag : String) (now mote : Int) (msg : String)
  | fire (tag : String) (now : Int)
  | op (command : Command) (reply : Reply)

/-- The memory of an experiment. -/
structure Notebook where
  notes : Array Note := #[]
  /-- The hosts by name, the latest first. -/
  hosts : List (String × Nat) := []
  /-- The trace in use. -/
  trace : Option Nat := none
  /-- The lines that a recorder kept, with their times and motes. -/
  emitted : Array (Int × Int × String) := #[]

instance : Inhabited Notebook := ⟨{}⟩

end MoteTrial.Experiment
