import MoteTrial.Observer

/-! # Test log

The log that a test script writes to, with the verdict of the run. The verdict is open at first; a
passed run stays passed, a failed one may still pass, and a later failure replaces the reason.
-/

namespace MoteTrial

/-- The outcome of a test. -/
inductive Verdict where
  | passed
  | failed
  deriving DecidableEq, Repr

/-- The word that reports use for a verdict. -/
def Verdict.name : Verdict → String
  | .passed => "PASSED"
  | .failed => "FAILED"

/-- The log of a test script. -/
structure TestLog where
  lines : Array String := #[]
  verdict : Option Verdict := none
  /-- Why the test failed last. -/
  reason : String := ""
  /-- Whether lines are shown on the console. -/
  echo : Bool := true
  /-- The trace that lines are recorded in. -/
  trace : Option Nat := none
  deriving DecidableEq, Repr, Inhabited

/-- An operation on a log before an observer. What it did before a failure stays done. -/
abbrev LogM := EStateM Failure (TestLog × Observer)

namespace TestLog

/-- Whether the test has passed. -/
def passed (log : TestLog) : Bool := log.verdict = some .passed

/-- All lines joined. -/
def text (log : TestLog) : String := String.join log.lines.toList

/-- A line of the script as the console shows it, always with a line end. -/
def shown (text : String) : String :=
  "[script] " ++ text ++ if text.toList.getLast? = some '\n' then "" else "\n"

/-- What an observer sees of a line that is written. -/
def observe (log : TestLog) (now : Int) (text : String) (mote : Int) (o : Observer) : Observer :=
  let o := if log.echo then o.print (shown text) else o
  match log.trace with
  | none => o
  | some id => o.recordLog id now mote text

/-- Writes a line on behalf of a mote; mote -1 stands for the script itself. -/
def write (now : Int) (text : String) (mote : Int) : LogM Unit :=
  modify fun (log, o) => ({ log with lines := log.lines.push text }, log.observe now text mote o)

/-- The text of an integer in what an operation prints. -/
def writeInt (n : Int) : LogM String :=
  match MoteTrial.writeInt n with
  | .ok text => pure text
  | .error f => throw f

/-- Passes the test. -/
def pass (now : Int) : LogM Unit := do
  let (log, _) ← get
  if log.verdict ≠ some .passed then
    let time ← writeInt now
    modify fun (log, o) => (log, o.print ("✅ TEST OK at " ++ time ++ "ms\n"))
  modify fun (log, o) => ({ log with verdict := some .passed }, o)

/-- Fails the test, unless it has passed. -/
def fail (now : Int) (reason : String) : LogM Unit := do
  let (log, _) ← get
  if log.verdict = some .passed then return
  modify fun (log, o) => ({ log with verdict := some .failed, reason }, o)
  let time ← writeInt now
  modify fun (log, o) => (log, o.print ("❌ TEST FAILED at " ++ time ++ "ms: " ++ reason ++ "\n"))

end TestLog

end MoteTrial
