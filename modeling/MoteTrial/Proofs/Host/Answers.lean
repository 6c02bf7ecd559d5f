import MoteTrial.Host

/-! # What a script makes of a line

For the built-in scripts, what a listening host makes of a line, `Host.answer`, and of the expiry of
its deadline, `Host.expired`, computed from the host alone. A host stays one with a built-in script
whatever the answer.
-/

namespace MoteTrial

open SimM Simulation

variable {κ : Type}

/-- A log once a failure is reported. -/
def TestLog.failed (reason : String) (log : TestLog) : TestLog :=
  if log.verdict = some .passed then log else { log with verdict := some .failed, reason }

namespace TestLog

theorem failed_of_undecided {log : TestLog} (undecided : log.verdict = none) (reason : String) :
    log.failed reason = { log with verdict := some .failed, reason } := by
  unfold failed
  rw [undecided]
  rfl

theorem trace_failed (reason : String) (log : TestLog) : (log.failed reason).trace = log.trace := by
  unfold failed
  split
  · rfl
  · rfl

theorem lines_failed (reason : String) (log : TestLog) : (log.failed reason).lines = log.lines := by
  unfold failed
  split
  · rfl
  · rfl

/-- Only a test that is passed already stays so. -/
theorem passed_failed_iff (reason : String) (log : TestLog) :
    (log.failed reason).verdict = some .passed ↔ log.verdict = some .passed := by
  unfold failed
  split
  · rfl
  · rename_i unpassed
    simp [unpassed]

theorem verdict_failed_ne_none (reason : String) (log : TestLog) :
    (log.failed reason).verdict ≠ none := by
  unfold failed
  split
  · rename_i passed
    simp [passed]
  · exact Option.some_ne_none _

end TestLog

/-- A log once success is reported. -/
def TestLog.succeeded (log : TestLog) : TestLog := { log with verdict := some .passed }

/-- A log with a further line. -/
def TestLog.added (text : String) (log : TestLog) : TestLog :=
  { log with lines := log.lines.push text }

/-- What a script makes of a line: the host once it is handled, the change that is made to a link,
and whether the script is done, or how it fails. -/
structure Answer (κ : Type) where
  host : Host κ
  change? : Option (Change × Int × Int) := none
  outcome : Except Failure Bool := .ok false

namespace Host

/-- A host whose script has failed. -/
def crashed (f : Failure) (host : Host κ) : Host κ :=
  { host with
    error := some f
    log := host.log.failed (f.name ++ ": " ++ f.message)
    finished := true }

/-- A host whose test has ended; an open verdict becomes a failure. -/
def closed (host : Host κ) : Host κ :=
  { host with
    finished := true
    log := if host.log.verdict.isNone then
        host.log.failed (if host.timedOut then "timeout" else "script ended without test_ok")
      else host.log }

/-- A host that has a line before it. -/
def facing (mote : Int) (msg : String) (host : Host κ) : Host κ :=
  { host with mote := some mote, msg := some msg }

/-- What the link-fault script makes of a line that asks for a change of its link; `next` is its
state once the change is made. -/
def answerChange (kind : Change) (keyword : String) (timeout : Int) (state next : LinkFault)
    (host : Host κ) : Answer κ :=
  match state.endpoints keyword with
  | .error f => { host, outcome := .error f.settled }
  | .ok (a, b) =>
    if Numeral.isWritable a && Numeral.isWritable b then
      { host := { host with script := .linkFault timeout true next }, change? := some (kind, a, b) }
    else { host, change? := some (kind, a, b), outcome := .error .unwritableInteger }

/-- What the link-fault script makes of a line. -/
def answerLinkFault (timeout : Int) (state : LinkFault) (mote : Int) (msg : String)
    (host : Host κ) : Answer κ :=
  match Message.classify msg with
  | .done => { host := { host with log := host.log.succeeded }, outcome := .ok true }
  | .deteriorate =>
    host.answerChange .deteriorate Config.standard.keywordDeteriorate timeout state
      { state with deteriorations := state.deteriorations + 1, degraded := true }
  | .improve =>
    host.answerChange .improve Config.standard.keywordImprove timeout state
      { state with improvements := state.improvements + 1, degraded := false }
  | .started =>
    match Message.startedEndpoint? Config.standard msg with
    | none => { host }
    | some endpoint =>
      { host := { host with script := .linkFault timeout true (state.bind endpoint mote) } }
  | .other =>
    let script := .linkFault timeout true { state with logged := state.logged + 1 }
    { host := { host with script, log := host.log.added (msg ++ "\n") } }

/-- The line that the reception script logs for a counter. -/
def receptionLine (state : Reception) (counter : Int) : String :=
  Numeral.decimal counter ++ " " ++ Numeral.decimal (state.record counter).lost ++ " " ++
    Numeral.decimal state.last ++ "\n"

/-- Whether the integers of that line can be written. -/
def canLog (state : Reception) (counter : Int) : Bool :=
  Numeral.isWritable counter && Numeral.isWritable (state.record counter).lost &&
    Numeral.isWritable state.last

/-- What the reception script makes of a line. -/
def answerReception (timeout : Int) (state : Reception) (msg : String) (host : Host κ) :
    Answer κ :=
  match Message.parseReceived Config.standard msg with
  | .error f => { host, outcome := .error f.settled }
  | .ok none => { host }
  | .ok (some counter) =>
    let script := .reception timeout true none (state.record counter)
    if canLog state counter then
      { host := { host with script, log := host.log.added (receptionLine state counter) } }
    else { host := { host with script }, outcome := .error .unwritableInteger }

/-- What the script of a listening host makes of a line. -/
def answer (mote : Int) (msg : String) (host : Host κ) : Answer κ :=
  match host.script with
  | .linkFault timeout _ state => (host.facing mote msg).answerLinkFault timeout state mote msg
  | .reception timeout _ _ state => (host.facing mote msg).answerReception timeout state msg
  | .code _ => { host := host.facing mote msg }

/-- A host once the action of its built-in script at the deadline is done. -/
def acted (host : Host κ) : Host κ :=
  match host.script with
  | .linkFault timeout _ _ =>
    { host with log := host.log.failed ("no '" ++ Config.standard.keywordDone ++ "' within " ++
        Numeral.decimal timeout ++ "ms") }
  | .reception _ _ _ state =>
    if state.success then { host with log := host.log.succeeded } else host
  | .code _ => host

/-- A host whose deadline has expired. -/
def expired (host : Host κ) : Host κ := closed (acted { host with timedOut := true })

/-- At the deadline the link-fault script fails the test. -/
theorem expired_linkFault {timeout : Int} {attached : Bool} {state : LinkFault} {host : Host κ}
    (script : host.script = .linkFault timeout attached state) (undecided : host.log.verdict = none) :
    host.expired =
      { host with
        finished := true
        timedOut := true
        log := { host.log with
          verdict := some .failed
          reason := "no '" ++ Config.standard.keywordDone ++ "' within " ++ Numeral.decimal timeout ++
            "ms" } } := by
  simp [expired, acted, script, closed, TestLog.failed_of_undecided undecided]

/-- At the deadline the account of the reception script decides on an open verdict. -/
theorem expired_reception {timeout : Int} {attached : Bool} {trace : Option Nat} {state : Reception}
    {host : Host κ} (script : host.script = .reception timeout attached trace state)
    (undecided : host.log.verdict = none) :
    host.expired =
      { host with
        finished := true
        timedOut := true
        log := if state.success then host.log.succeeded else host.log.failed "timeout" } := by
  unfold expired acted
  simp only [script]
  cases state.success with
  | true => simp [closed, TestLog.succeeded]
  | false => simp [closed, undecided]

/-- A built-in script with this deadline is attached and nothing is traced. -/
structure BuiltIn (timeout : Int) (host : Host κ) : Prop where
  untraced : host.log.trace = none
  attached : (∃ state, host.script = .linkFault timeout true state) ∨
    ∃ state, host.script = .reception timeout true none state

end Host

/-- The host once an answer of its script is dealt with. -/
def Answer.settled (a : Answer κ) : Host κ :=
  match a.outcome with
  | .ok false => a.host
  | .ok true => a.host.closed
  | .error f => a.host.crashed f

section From

variable {host : Host κ} {timeout : Int}

/-- An answer changes nothing of a host but its script's state, its log and the line before it. -/
structure Answer.From (timeout : Int) (host : Host κ) (a : Answer κ) : Prop where
  builtIn : a.host.BuiltIn timeout
  finished : a.host.finished = host.finished
  error : a.host.error = host.error
  timedOut : a.host.timedOut = host.timedOut

theorem Host.answerChange_from (builtIn : host.BuiltIn timeout) (kind : Change) (keyword : String)
    (state next : LinkFault) :
    (host.answerChange kind keyword timeout state next).From timeout host := by
  unfold Host.answerChange
  split
  · exact ⟨builtIn, rfl, rfl, rfl⟩
  · split
    · exact ⟨⟨builtIn.untraced, .inl ⟨next, rfl⟩⟩, rfl, rfl, rfl⟩
    · exact ⟨builtIn, rfl, rfl, rfl⟩

theorem Host.answerLinkFault_from (builtIn : host.BuiltIn timeout) (state : LinkFault) (mote : Int)
    (msg : String) : (host.answerLinkFault timeout state mote msg).From timeout host := by
  unfold Host.answerLinkFault
  split
  · exact ⟨⟨builtIn.untraced, builtIn.attached⟩, rfl, rfl, rfl⟩
  · exact Host.answerChange_from builtIn ..
  · exact Host.answerChange_from builtIn ..
  · split
    · exact ⟨builtIn, rfl, rfl, rfl⟩
    · exact ⟨⟨builtIn.untraced, .inl ⟨_, rfl⟩⟩, rfl, rfl, rfl⟩
  · exact ⟨⟨builtIn.untraced, .inl ⟨_, rfl⟩⟩, rfl, rfl, rfl⟩

theorem Host.answerReception_from (builtIn : host.BuiltIn timeout) (state : Reception)
    (msg : String) : (host.answerReception timeout state msg).From timeout host := by
  unfold Host.answerReception
  split
  · exact ⟨builtIn, rfl, rfl, rfl⟩
  · exact ⟨builtIn, rfl, rfl, rfl⟩
  · simp only
    split
    · exact ⟨⟨builtIn.untraced, .inr ⟨_, rfl⟩⟩, rfl, rfl, rfl⟩
    · exact ⟨⟨builtIn.untraced, .inr ⟨_, rfl⟩⟩, rfl, rfl, rfl⟩

theorem Host.answer_from (builtIn : host.BuiltIn timeout) (mote : Int) (msg : String) :
    (host.answer mote msg).From timeout host := by
  have facing : (host.facing mote msg).BuiltIn timeout := ⟨builtIn.untraced, builtIn.attached⟩
  unfold Host.answer
  obtain ⟨state, script⟩ | ⟨state, script⟩ := builtIn.attached
  · simp only [script]
    obtain ⟨kept, finished, error, timedOut⟩ := Host.answerLinkFault_from facing state mote msg
    exact ⟨kept, finished, error, timedOut⟩
  · simp only [script]
    obtain ⟨kept, finished, error, timedOut⟩ := Host.answerReception_from facing state msg
    exact ⟨kept, finished, error, timedOut⟩

theorem Host.BuiltIn.closed (builtIn : host.BuiltIn timeout) : host.closed.BuiltIn timeout := by
  refine ⟨?_, builtIn.attached⟩
  unfold Host.closed
  simp only
  split
  · rw [TestLog.trace_failed, builtIn.untraced]
  · exact builtIn.untraced

theorem Host.BuiltIn.crashed (builtIn : host.BuiltIn timeout) (f : Failure) :
    (host.crashed f).BuiltIn timeout :=
  ⟨(TestLog.trace_failed _ _).trans builtIn.untraced, builtIn.attached⟩

/-- How an answer leaves an unfinished host. -/
theorem Answer.From.settled {a : Answer κ} (answered : a.From timeout host)
    (listening : host.finished = false) :
    a.settled.BuiltIn timeout ∧
      match a.outcome with
      | .ok done => a.settled.finished = done ∧ a.settled.error = host.error
      | .error f => a.settled.finished = true ∧ a.settled.error = some f := by
  unfold Answer.settled
  cases a.outcome with
  | error f => exact ⟨answered.builtIn.crashed f, rfl, rfl⟩
  | ok done =>
    cases done with
    | false => exact ⟨answered.builtIn, answered.finished.trans listening, answered.error⟩
    | true => exact ⟨answered.builtIn.closed, rfl, answered.error⟩

end From

end MoteTrial
