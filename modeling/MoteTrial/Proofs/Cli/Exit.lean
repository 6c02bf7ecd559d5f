import MoteTrial.Proofs.Cli.Building

/-! # How runs from the command line end

A run that is ready for its test ends with an exit status once the test has raised or its trace has been
summarized: 0 if the test has passed, 1 otherwise. What keeps a run from its test, or its trace from its
summary, is not reported, it goes out to the caller. `run_exit` says that a run ends in no other way.
-/

namespace MoteTrial.Cli

open SimM MoteTrial.Session

variable {s₀ s s' : Session} {o : Options} {seed : Int} {name : ScriptName} {trace : Option Nat}
variable {observer : Observer}

section Steps

/-- Whether an integer option can be shown. -/
def Setting.Shown : Setting Int → Prop
  | .blank => True
  | .value n => Numeral.isWritable n = true

/-- How an integer option is shown. -/
def Setting.shown : Setting Int → String
  | .blank => blankText
  | .value n => Numeral.decimal n

/-- A session that has written a text to the console. -/
def Session.told (text : String) (s : Session) : Session :=
  { s with observer := s.observer.print text }

/-- A session in which a run has adopted its options and shown them. -/
def Session.announced (o : Options) (s : Session) : Session :=
  { s with defaults := ⟨o.seed, o.run, o.output, !o.noTrace⟩ }.told
    ("🔧 Configuration: script=" ++ shownScript o.script ++ ", seed=" ++ o.seed.shown ++ ", run=" ++
      o.run.shown ++ ", replay=" ++ shownReplay o ++ "\n")

theorem Session.told_told (s : Session) (first second : String) :
    (s.told first).told second = s.told (first ++ second) := by
  simp only [told, Observer.print, String.append_assoc]

theorem say_apply (text : String) (s : Session) : say text s = .ok () (s.told (text ++ "\n")) := rfl

theorem number_apply {n : Int} (writable : Numeral.isWritable n = true) (s : Session) :
    number n s = .ok (Numeral.decimal n) s := by
  unfold number
  simp only [writeInt_apply writable]
  rfl

theorem shownNumber_apply {setting : Setting Int} (shown : setting.Shown) (s : Session) :
    shownNumber setting s = .ok setting.shown s := by
  cases setting with
  | blank => rfl
  | value n => exact number_apply shown s

theorem shownNumber_long {setting : Setting Int} (long : ¬ setting.Shown) (s : Session) :
    shownNumber setting s = .error .unwritableInteger s := by
  cases setting with
  | blank => exact absurd trivial long
  | value n =>
    unfold shownNumber number
    simp only [writeInt_unwritable (Bool.eq_false_iff.mpr long)]
    rfl

/-- An operation on the observer leaves the session with what it leaves. -/
theorem onObserver_returns {α : Type} {good : α → Observer → Prop} {m : ObserverM α}
    (returns : Returns good (m s.observer)) :
    Returns (fun a s' => good a s'.observer) (onObserver m s) := by
  unfold onObserver
  cases ran : m s.observer with
  | ok a o =>
    rw [ran] at returns
    exact returns
  | error f o => trivial

end Steps

section Traces

variable {t : Nat}

theorem createFile_kept (id : Nat) (folder : Path) (runId : String) (stream : Stream)
    (observer : Observer) :
    Returns (fun _ o => o.rows = observer.rows)
      (Observer.createFile id folder runId stream observer) := by
  unfold Observer.createFile
  refine (Observer.onDisk_kept _ observer).bind fun _ o kept => ?_
  refine (Observer.rows_note o id fun t => ?_).trans kept
  cases stream with
  | log | reception | link => rfl

theorem startFiles_kept (id : Nat) (runId folder : String) (observer : Observer) :
    Returns (fun _ o => o.rows = observer.rows) (Observer.startFiles id runId folder observer) := by
  unfold Observer.startFiles
  rw [modify_bind_apply]
  have named := observer.rows_note id (f := fun t =>
    { t with runId := some runId, folder := some (Path.normal folder) }) fun _ => rfl
  refine (Observer.onDisk_kept _ _).bind fun _ o kept => ?_
  refine (createFile_kept ..).bind fun _ o₁ kept₁ => (createFile_kept ..).bind fun _ o₂ kept₂ => ?_
  refine (createFile_kept ..).bind fun _ o₃ kept₃ => ?_
  have started := Observer.rows_note { o₃ with readings := o₃.readings + 1 } id
    (f := fun t => { t with started := some (o₃.clock o₃.readings) }) fun _ => rfl
  exact started.trans (kept₃.trans (kept₂.trans (kept₁.trans (kept.trans named))))

theorem runId_returns (stamp : String) (o : Options) (s : Session) :
    Returns (fun _ s' => s' = s) (runId stamp o s) := by
  have shows (setting : Setting Int) (s : Session) :
      Returns (fun _ s' => s' = s) (shownNumber setting s) := by
    by_cases shown : setting.Shown
    · rw [shownNumber_apply shown]
      rfl
    · rw [shownNumber_long shown]
      trivial
  unfold runId
  exact (shows o.seed s).bind fun _ s₁ same => (shows o.run s₁).bind fun _ s₂ same' =>
    same'.trans same

/-- The trace that is made for a run has no rows yet. -/
theorem startTrace_fresh (o : Options) (s : Session) :
    Returns (fun trace s' => ∀ t ∈ trace, s'.observer.rows[t]? = some {}) (startTrace o s) := by
  unfold startTrace
  cases o.noTrace with
  | true => nofun
  | false =>
    let opened : Session := { s with observer := s.observer.newTrace.2 }
    refine (runId_returns opened.stamp o opened).bind fun name s₁ same => ?_
    subst same
    cases o.output with
    | blank => trivial
    | value folder =>
      have files := onObserver_returns (s := opened)
        (startFiles_kept s.observer.newTrace.1 name folder opened.observer)
      refine files.bind fun _ s₂ kept => ?_
      rintro t ⟨⟩
      rw [kept]
      exact s.observer.rows_newTrace

end Traces

section Outcome

/-- Options with a seed that will do, and that can be shown. -/
structure Seeded (o : Options) (seed : Int) : Prop where
  seedShown : o.seed.Shown
  runShown : o.run.Shown
  given : o.seed = .value seed
  inRange : 0 ≤ seed ∧ seed < 2 ^ 32

/-- What keeps a run from its test. -/
inductive Unready (s : Session) (o : Options) : Failure → Prop
  /-- The seed or the number of the run is too long to be shown. -/
  | unshown (long : ¬ (o.seed.Shown ∧ o.run.Shown)) : Unready s o .unwritableInteger
  | unseeded (seedShown : o.seed.Shown) (runShown : o.run.Shown) (blank : o.seed = .blank) :
    Unready s o (.blank .seed)
  | outOfRange {seed : Int} (seedShown : o.seed.Shown) (runShown : o.run.Shown)
    (given : o.seed = .value seed) (outside : ¬ (0 ≤ seed ∧ seed < 2 ^ 32)) :
    Unready s o .seedRange
  /-- The trace cannot be made. -/
  | untraced {seed : Int} {f : Failure} {s' : Session} (seeded : Seeded o seed)
    (fails : startTrace o (s.announced o) = .error f s') : Unready s o f
  | unscripted {seed : Int} {trace : Option Nat} {s' : Session} (seeded : Seeded o seed)
    (traced : startTrace o (s.announced o) = .ok trace s') (blank : o.script = .blank) :
    Unready s o (.blank .script)

/-- A run that is ready for its test, in a session in which its trace is made, if it has one. -/
structure Ready (s : Session) (o : Options) (seed : Int) (name : ScriptName) (trace : Option Nat)
    (s' : Session) : Prop where
  seeded : Seeded o seed
  traced : startTrace o (s.announced o) = .ok trace s'
  scripted : o.script = .value name

/-- The test of a run raises: while its network or replay is built, or while its script runs. A test
of more than `eventLimit` events counts as one that raises. -/
def TestRaises (s : Session) (o : Options) : Prop :=
  ∃ seed name trace s' f observer, Ready s o seed name trace s' ∧
    runTest s'.config seed name o trace s'.observer = .error f observer

/-- The test of a run returns, with a log, a trace if there is one, and an observer. -/
def TestReturns (s : Session) (o : Options) (log : TestLog) (trace : Option Nat)
    (observer : Observer) : Prop :=
  ∃ seed name s' world, Ready s o seed name trace s' ∧
    runTest s'.config seed name o trace s'.observer = .ok (log, world) observer

/-- The trace can be summarized, if there is one. -/
def Summarized (trace : Option Nat) (observer : Observer) : Prop :=
  ∀ t ∈ trace, ∃ summary observer', Observer.summarize t observer = .ok summary observer'

/-- A run whose test returns and has passed, and whose trace is summarized. -/
def Succeeds (s : Session) (o : Options) : Prop :=
  ∃ log trace observer, TestReturns s o log trace observer ∧ log.verdict = some .passed ∧
    Summarized trace observer

/-- A run whose test raises, or returns and has not passed and whose trace is summarized. -/
def Fails (s : Session) (o : Options) : Prop :=
  TestRaises s o ∨
    ∃ log trace observer, TestReturns s o log trace observer ∧ log.verdict ≠ some .passed ∧
      Summarized trace observer

/-- A failure that goes out to the caller: the run is not ready for its test, or its trace cannot be
summarized. -/
def Escapes (s : Session) (o : Options) (f : Failure) : Prop :=
  Unready s o f ∨
    ∃ log t observer observer', TestReturns s o log (some t) observer ∧
      Observer.summarize t observer = .error f observer'

/-- The end of a run, once it is ready for its test. -/
def conclude (o : Options) (seed : Int) (name : ScriptName) (trace : Option Nat) : SessionM Nat := do
  let s ← get
  match runTest s.config seed name o trace s.observer with
  | .error f observer =>
    set { s with observer }
    say ("❌ Test run failed: " ++ f.message)
    return 1
  | .ok (log, world) observer =>
    set { s with observer }
    report name log world
    match trace with
    | none => pure ()
    | some id => reportTrace id
    return if log.passed then 0 else 1

theorem runWith_shown (seedShown : o.seed.Shown) (runShown : o.run.Shown) (s : Session) :
    runWith o s = (do
      let seed ← require .seed o.seed
      if seed < 0 || 2 ^ 32 ≤ seed then throw .seedRange
      let trace ← startTrace o
      let name ← require .script o.script
      conclude o seed name trace : SessionM Nat) (s.announced o) := by
  unfold runWith adopt
  rw [modify_bind_apply, bind_ok (shownNumber_apply seedShown _), bind_ok (shownNumber_apply runShown _)]
  rfl

theorem runWith_given (seedShown : o.seed.Shown) (runShown : o.run.Shown)
    (given : o.seed = .value seed) (s : Session) :
    runWith o s = (if seed < 0 || 2 ^ 32 ≤ seed then throw .seedRange else do
      let trace ← startTrace o
      let name ← require .script o.script
      conclude o seed name trace : SessionM Nat) (s.announced o) := by
  rw [runWith_shown seedShown runShown, given]
  rfl

theorem runWith_seeded (seeded : Seeded o seed) (s : Session) :
    runWith o s = (do
      let trace ← startTrace o
      let name ← require .script o.script
      conclude o seed name trace : SessionM Nat) (s.announced o) := by
  obtain ⟨nonneg, small⟩ := seeded.inRange
  rw [runWith_given seeded.seedShown seeded.runShown seeded.given, if_neg]
  simp only [Bool.or_eq_true, decide_eq_true_eq]
  omega

theorem runWith_ready (ready : Ready s o seed name trace s') :
    runWith o s = conclude o seed name trace s' := by
  rw [runWith_seeded ready.seeded, bind_ok ready.traced, ready.scripted]
  rfl

theorem runWith_unready {f : Failure} (unready : Unready s o f) :
    ∃ s', runWith o s = .error f s' := by
  cases unready with
  | unshown long =>
    unfold runWith adopt
    rw [modify_bind_apply]
    by_cases seedShown : o.seed.Shown
    · have runLong : ¬ o.run.Shown := fun runShown => long ⟨seedShown, runShown⟩
      rw [bind_ok (shownNumber_apply seedShown _), bind_error (shownNumber_long runLong _)]
      exact ⟨_, rfl⟩
    · rw [bind_error (shownNumber_long seedShown _)]
      exact ⟨_, rfl⟩
  | unseeded seedShown runShown blank =>
    rw [runWith_shown seedShown runShown, blank]
    exact ⟨_, rfl⟩
  | outOfRange seedShown runShown given outside =>
    rw [runWith_given seedShown runShown given, if_pos]
    · exact ⟨_, rfl⟩
    · simp only [Bool.or_eq_true, decide_eq_true_eq]
      omega
  | untraced seeded fails =>
    rw [runWith_seeded seeded, bind_error fails]
    exact ⟨_, rfl⟩
  | unscripted seeded traced blank =>
    rw [runWith_seeded seeded, bind_ok traced, blank]
    exact ⟨_, rfl⟩

/-- A run is ready for its test, or there is something that keeps it from it. -/
theorem ready_or_unready (s : Session) (o : Options) :
    (∃ seed name trace s', Ready s o seed name trace s') ∨ ∃ f, Unready s o f := by
  by_cases shown : o.seed.Shown ∧ o.run.Shown
  case neg => exact .inr ⟨_, .unshown shown⟩
  obtain ⟨seedShown, runShown⟩ := shown
  cases given : o.seed with
  | blank => exact .inr ⟨_, .unseeded seedShown runShown given⟩
  | value seed =>
    by_cases inRange : 0 ≤ seed ∧ seed < 2 ^ 32
    case neg => exact .inr ⟨_, .outOfRange seedShown runShown given inRange⟩
    have seeded : Seeded o seed := ⟨seedShown, runShown, given, inRange⟩
    cases traced : startTrace o (s.announced o) with
    | error f s' => exact .inr ⟨f, .untraced seeded traced⟩
    | ok trace s' =>
      cases scripted : o.script with
      | blank => exact .inr ⟨_, .unscripted seeded traced scripted⟩
      | value name => exact .inl ⟨seed, name, trace, s', seeded, traced, scripted⟩

/-- Reporting how a run ended only writes to the console. -/
theorem report_apply (name : ScriptName) (log : TestLog) {world : PlainWorld}
    (writable : Numeral.isWritable world.now = true) (s : Session) :
    ∃ text, report name log world s = .ok () (s.told text) := by
  unfold report
  rw [bind_ok (say_apply _ _), bind_ok (say_apply _ _), bind_ok (number_apply writable _),
    bind_ok (say_apply _ _), bind_ok (say_apply _ _)]
  simp only [Session.told_told]
  by_cases reason : log.reason = ""
  · simp only [reason, ne_eq, not_true_eq_false, ↓reduceIte]
    exact ⟨_, rfl⟩
  · simp only [reason, ne_eq, not_false_eq_true, ↓reduceIte, say_apply, Session.told_told]
    exact ⟨_, rfl⟩

theorem reportTrace_apply {t : Nat} {summary : Summary}
    (made : Observer.summarize t s.observer = .ok summary observer)
    (writable : Numeral.isWritable summary.statistics.lost = true) :
    ∃ s', reportTrace t s = .ok () s' := by
  have summarized : onObserver (Observer.summarize t) s = .ok summary { s with observer } := by
    unfold onObserver
    rw [made]
  unfold reportTrace
  rw [bind_ok summarized]
  dsimp only
  split
  · rw [bind_ok (say_apply _ _), bind_ok (number_apply writable _), bind_ok (say_apply _ _)]
    exact ⟨_, rfl⟩
  · exact ⟨_, rfl⟩

theorem reportTrace_error {t : Nat} {f : Failure}
    (unmade : Observer.summarize t s.observer = .error f observer) :
    reportTrace t s = .error f { s with observer } := by
  have failed : onObserver (Observer.summarize t) s = .error f { s with observer } := by
    unfold onObserver
    rw [unmade]
  exact bind_error failed _

theorem conclude_raises {f : Failure}
    (raises : runTest s.config seed name o trace s.observer = .error f observer) :
    ∃ s', conclude o seed name trace s = .ok 1 s' := by
  unfold conclude
  rw [get_bind_apply, raises]
  exact ⟨_, rfl⟩

variable {log : TestLog} {world : PlainWorld}

/-- Once its test has returned, a run reports how it ended, and closes its trace. -/
theorem conclude_returns
    (ran : runTest s.config seed name o trace s.observer = .ok (log, world) observer) :
    ∃ text, conclude o seed name trace s = (do
      match trace with
      | none => pure ()
      | some id => reportTrace id
      return if log.passed then 0 else 1 : SessionM Nat) { s with observer := observer.print text } := by
  have returned := runTest_returns s.config seed name o trace s.observer
  rw [ran] at returned
  obtain ⟨text, reported⟩ := report_apply name log returned.1 { s with observer }
  refine ⟨text, ?_⟩
  unfold conclude
  rw [get_bind_apply, ran]
  exact bind_ok reported _

theorem conclude_summarized (ready : Ready s₀ o seed name trace s)
    (ran : runTest s.config seed name o trace s.observer = .ok (log, world) observer)
    (summarized : Summarized trace observer) :
    ∃ s', conclude o seed name trace s = .ok (if log.passed then 0 else 1) s' := by
  obtain ⟨text, concluded⟩ := conclude_returns ran
  rw [concluded]
  cases trace with
  | none => exact ⟨_, rfl⟩
  | some t =>
    have returned := runTest_returns s.config seed name o (some t) s.observer
    have fresh := startTrace_fresh o (s₀.announced o)
    rw [ran] at returned
    rw [ready.traced] at fresh
    have shown : LossesShown t observer := returned.2 t rfl (fresh t rfl)
    obtain ⟨summary, observer', made⟩ := summarized t rfl
    have lost := shown.summarize
    rw [made] at lost
    have printed := Unspoken.summarize t observer text
    rw [made] at printed
    obtain ⟨s', reported⟩ := reportTrace_apply (s := { s with observer := observer.print text }) printed
      lost
    exact ⟨s', bind_ok reported _⟩

theorem conclude_unsummarized {t : Nat} {f : Failure} {observer' : Observer}
    (ran : runTest s.config seed name o (some t) s.observer = .ok (log, world) observer)
    (unmade : Observer.summarize t observer = .error f observer') :
    ∃ s', conclude o seed name (some t) s = .error f s' := by
  obtain ⟨text, concluded⟩ := conclude_returns ran
  have printed := Unspoken.summarize t observer text
  rw [unmade] at printed
  rw [concluded]
  exact ⟨_, bind_error (reportTrace_error (s := { s with observer := observer.print text }) printed) _⟩

theorem runWith_succeeds (succeeds : Succeeds s o) : ∃ s', runWith o s = .ok 0 s' := by
  obtain ⟨log, trace, observer, ⟨seed, name, s', world, ready, ran⟩, passed, summarized⟩ := succeeds
  obtain ⟨s'', concluded⟩ := conclude_summarized ready ran summarized
  rw [runWith_ready ready, concluded]
  refine ⟨s'', ?_⟩
  simp [TestLog.passed, passed]

theorem runWith_fails (fails : Fails s o) : ∃ s', runWith o s = .ok 1 s' := by
  rcases fails with ⟨seed, name, trace, s', f, observer, ready, raised⟩ |
    ⟨log, trace, observer, ⟨seed, name, s', world, ready, ran⟩, unpassed, summarized⟩
  · rw [runWith_ready ready]
    exact conclude_raises raised
  · obtain ⟨s'', concluded⟩ := conclude_summarized ready ran summarized
    rw [runWith_ready ready, concluded]
    refine ⟨s'', ?_⟩
    simp [TestLog.passed, unpassed]

theorem runWith_escapes {f : Failure} (escapes : Escapes s o f) :
    ∃ s', runWith o s = .error f s' := by
  rcases escapes with unready |
    ⟨log, t, observer, observer', ⟨seed, name, s', world, ready, ran⟩, unmade⟩
  · exact runWith_unready unready
  · rw [runWith_ready ready]
    exact conclude_unsummarized ran unmade

theorem summarized_or (trace : Option Nat) (observer : Observer) :
    Summarized trace observer ∨ ∃ t f observer', trace = some t ∧
      Observer.summarize t observer = .error f observer' := by
  cases trace with
  | none => exact .inl nofun
  | some t =>
    cases made : Observer.summarize t observer with
    | ok summary observer' =>
      refine .inl fun t' same => ⟨summary, observer', ?_⟩
      rw [← Option.some.inj same, made]
    | error f observer' => exact .inr ⟨t, f, observer', rfl, made⟩

/-- There is no other way for a run to end. -/
theorem run_ends (s : Session) (o : Options) : Succeeds s o ∨ Fails s o ∨ ∃ f, Escapes s o f := by
  rcases ready_or_unready s o with ⟨seed, name, trace, s', ready⟩ | ⟨f, unready⟩
  case inr => exact .inr (.inr ⟨f, .inl unready⟩)
  cases ran : runTest s'.config seed name o trace s'.observer with
  | error f observer => exact .inr (.inl (.inl ⟨seed, name, trace, s', f, observer, ready, ran⟩))
  | ok result observer =>
    obtain ⟨log, world⟩ := result
    have returns : TestReturns s o log trace observer := ⟨seed, name, s', world, ready, ran⟩
    rcases summarized_or trace observer with summarized | ⟨t, f, observer', rfl, unmade⟩
    · by_cases passed : log.verdict = some .passed
      · exact .inl ⟨log, trace, observer, returns, passed, summarized⟩
      · exact .inr (.inl (.inr ⟨log, trace, observer, returns, passed, summarized⟩))
    · exact .inr (.inr ⟨f, .inr ⟨log, t, observer, observer', returns, unmade⟩⟩)

/-- A run with an argument vector that is accepted ends with the status 0 if its test returns, has
passed, and its trace is summarized; it ends with the status 1 if its test raises, or returns and has
not passed and its trace is summarized. Otherwise a failure goes out to the caller: what keeps the run
from its test, or its trace from being summarized. -/
theorem run_exit {args : List String} (parsed : parse s.config s.defaults args = .ok o) :
    (∀ status, (∃ s', run args s = .ok status s') ↔
      status = 0 ∧ Succeeds s o ∨ status = 1 ∧ Fails s o) ∧
    ∀ f, (∃ s', run args s = .error f s') ↔ Escapes s o f := by
  have ran : run args s = runWith o s := by
    unfold run
    rw [get_bind_apply, parsed]
  rw [ran]
  refine ⟨fun status => ⟨?_, ?_⟩, fun f => ⟨?_, runWith_escapes⟩⟩
  · rintro ⟨s', exits⟩
    rcases run_ends s o with succeeds | fails | ⟨f, escapes⟩
    · obtain ⟨s'', zero⟩ := runWith_succeeds succeeds
      cases exits.symm.trans zero
      exact .inl ⟨rfl, succeeds⟩
    · obtain ⟨s'', one⟩ := runWith_fails fails
      cases exits.symm.trans one
      exact .inr ⟨rfl, fails⟩
    · obtain ⟨s'', raised⟩ := runWith_escapes escapes
      cases exits.symm.trans raised
  · rintro (⟨rfl, succeeds⟩ | ⟨rfl, fails⟩)
    · exact runWith_succeeds succeeds
    · exact runWith_fails fails
  · rintro ⟨s', raised⟩
    rcases run_ends s o with succeeds | fails | ⟨f', escapes⟩
    · obtain ⟨s'', zero⟩ := runWith_succeeds succeeds
      cases raised.symm.trans zero
    · obtain ⟨s'', one⟩ := runWith_fails fails
      cases raised.symm.trans one
    · obtain ⟨s'', out⟩ := runWith_escapes escapes
      cases raised.symm.trans out
      exact escapes

/-- A session with a recorded run in a file. -/
def recorded (lines : String) : Session :=
  { observer := { disk := Disk.put {} ["run.log"] (.file lines.toUTF8) } }

/-- The exit status of a run, if it has one. -/
def status? (args : List String) (s : Session) : Option Nat :=
  match run args s with
  | .ok status _ => some status
  | .error _ _ => none

/-- The failure that leaves a run, if there is one. -/
def raised? (args : List String) (s : Session) : Option Failure :=
  match run args s with
  | .ok _ _ => none
  | .error f _ => some f

theorem exits_of_status? {args : List String} {status : Nat} (exits : status? args s = some status) :
    ∃ s', run args s = .ok status s' := by
  unfold status? at exits
  cases ran : run args s with
  | ok n s' =>
    rw [ran] at exits
    cases exits
    exact ⟨s', rfl⟩
  | error f s' =>
    rw [ran] at exits
    cases exits

/-- The options of a run that replays the recorded one. -/
def replaying : Options := { Options.ofDefaults {} (.ofConfig {}) with replay := some "run.log" }

/-- A recorded run in which a mote says that it is done is replayed with success, trace and all. -/
theorem run_exit_replayed :
    parse {} (.ofConfig {}) ["--replay", "run.log"] = .ok replaying ∧
      status? ["--replay", "run.log"] (recorded "0\tID:1\tdone\n") = some 0 ∧
      Succeeds (recorded "0\tID:1\tdone\n") replaying := by
  have parsed : parse {} (.ofConfig {}) ["--replay", "run.log"] = .ok replaying := rfl
  have exits : status? ["--replay", "run.log"] (recorded "0\tID:1\tdone\n") = some 0 := by
    decide +kernel
  have ends := (run_exit (s := recorded "0\tID:1\tdone\n") parsed).1 0
  exact ⟨parsed, exits, (ends.mp (exits_of_status? exits)).elim (·.2) fun one => nomatch one.1⟩

/-- Failures that no status stands for: a seed that is out of range, a file in place of the folder of the
trace, and, once the test is over, a gap too wide for the statistics. -/
theorem failures_escape :
    (∃ o, parse {} (.ofConfig {}) ["--no-trace", "--seed", "-1"] = .ok o) ∧
      raised? ["--no-trace", "--seed", "-1"] {} = some .seedRange ∧
      raised? ["--output", "run.log"] (recorded "") = some (.disk .occupied "run.log") ∧
      raised? ["--script", "reception", "--replay", "run.log"]
        (recorded "0\tID:1\treceived 9223372036854775809\n") = some .beyondWord :=
  ⟨⟨_, rfl⟩, by decide +kernel, by decide +kernel, by decide +kernel⟩

end Outcome

end MoteTrial.Cli
