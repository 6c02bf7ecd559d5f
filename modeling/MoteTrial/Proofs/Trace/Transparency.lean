import MoteTrial.Proofs.Session.Program
import MoteTrial.Proofs.Trace.Parallel

/-! # Tracing is transparent

The run of a script has the same result and leaves the same world behind whether or not it is traced,
whatever becomes of the files of the trace, and whether or not lines are shown on the console; and the
rows that a trace keeps in memory are the same whatever becomes of its files. This holds for every
simulation in which users' code does not look at what observes it.
-/

namespace MoteTrial

open SimM Simulation Session

variable {κ μ : Type} {s : Sight}

namespace Oblivious

section Loop

variable {fire : Event κ → SimM κ μ Unit} (fires : ∀ event, Oblivious s (fire event))

include fires

theorem step : Oblivious s (Simulation.step fire) := by
  unfold Simulation.step
  refine common (fun ⟨_, _, _⟩ => rfl) fun w => ?_
  split
  · exact Parallel.pure false
  · split
    · exact Parallel.pure false
    · refine Parallel.bind (Parallel.modify fun ⟨alike, placed, viewed⟩ => ⟨alike, placed, viewed⟩)
        fun _ => (fires _).bind fun _ => ?_
      exact Parallel.bind (Parallel.modify fun ⟨alike, placed, viewed⟩ => ⟨alike, placed, viewed⟩)
        fun _ => Parallel.pure true

theorem run (bound : Option Int) (fuel : Nat) : Oblivious s (Simulation.run fire bound fuel) := by
  induction fuel with
  | zero => exact fun _ _ same => .error _ same
  | succ fuel ih =>
    unfold Simulation.run
    refine common (fun same => by cases same; rfl) fun w => ?_
    split
    · exact Parallel.pure w.now
    · split
      · exact Parallel.pure w.now
      · split
        · refine Parallel.bind (Parallel.modify fun same => ?_) fun _ => Parallel.pure _
          obtain ⟨alike, placed, viewed⟩ := same
          exact ⟨alike, placed, viewed⟩
        · exact (step fires).bind fun _ => ih
      · exact (step fires).bind fun _ => ih

end Loop

section Events

variable {act : Behaviour κ μ} (calls : ∀ c cue, Oblivious s (act c cue))

include calls

theorem hear (l : Listener κ) (mote : Int) (msg : String) :
    Oblivious s (Simulation.hear act l mote msg) := by
  cases l with
  | host h => exact hearLine calls mote msg
  | code c => exact (calls c _).bind fun _ => Parallel.pure ()

theorem fire (event : Event κ) : Oblivious s (Simulation.fire act event) := by
  cases event with
  | boot mote => exact boot (hear calls) mote
  | tick mote slot => exact tick (hear calls) mote slot
  | line mote msg => exact emit (hear calls) mote msg
  | expire h after action => exact expire calls after action
  | task c => exact (calls c _).bind fun _ => Parallel.pure ()

theorem hostRun (fuel h : Nat) : Oblivious s (Host.run act fuel h) := by
  unfold Host.run
  refine (start calls).bind fun _ => (run (fire calls) none fuel).bind fun _ => ?_
  refine Parallel.reads fun {w w'} same => ?_
  have there := same.sameHosts.each h
  generalize w.hosts[h]? = host?, w'.hosts[h]? = host?' at there ⊢
  cases there with
  | none => exact Parallel.pure ()
  | some alike =>
    obtain ⟨_, _⟩ := alike
    dsimp only
    split
    · exact (failTest _).bind fun _ => change fun ⟨scripts, logs⟩ => ⟨scripts, logs⟩
    · exact Parallel.pure ()

end Events

end Oblivious

section Script

variable {trace trace' : Option Nat}

theorem Script.alike_recordIn (placed : s.place trace = s.place trace') (script : Script κ) :
    Script.Alike s (script.recordIn trace) (script.recordIn trace') := by
  cases script with
  | linkFault timeout attached state => exact .linkFault timeout attached state
  | reception timeout attached _ state => exact .reception timeout attached state placed
  | code c => exact .code c

theorem attach_parallel {script script' : Script κ} {log log' : TestLog}
    (scripts : Script.Alike s script script') (logs : TestLog.Alike s log log') :
    Parallel s (Host.attach script log : SimM κ μ Nat) (Host.attach script' log') := by
  unfold Host.attach
  refine Parallel.reads fun {w w'} same => ?_
  rw [← same.sameHosts.size]
  refine Parallel.bind (Parallel.modify fun ⟨alike, radio, viewed⟩ => ?_) fun _ =>
    (Oblivious.addListener _).bind fun _ => Parallel.pure _
  exact ⟨alike.push ⟨scripts, logs⟩, radio, viewed⟩

/-- Changes of links are recorded from now on, if there is a trace. -/
theorem aim_parallel (placed : s.place trace = s.place trace') {rest rest' : SimM κ μ Nat}
    (goes : Parallel s rest rest') :
    Parallel s
      (if trace.isSome then (modify fun w => { w with radioTrace := trace }) >>= fun _ => rest
        else rest)
      (if trace'.isSome then (modify fun w => { w with radioTrace := trace' }) >>= fun _ => rest'
        else rest') := by
  rintro w w' ⟨alike, radio, viewed⟩
  cases s with
  | nothing =>
    cases trace <;> cases trace' <;> exact goes _ _ ⟨alike, rfl, viewed⟩
  | rows =>
    cases (placed : trace = trace')
    cases trace with
    | none => exact goes _ _ ⟨alike, radio, viewed⟩
    | some id => exact goes _ _ ⟨alike, rfl, viewed⟩

theorem closeTrace_eq (h : Nat) (trace : Option Nat) (w : World κ μ) :
    Scenario.closeTrace h trace w = .ok () (w.seenBy (Sight.recorded trace
      (fun id o => o.modifyTrace id (·.close
        ((w.hosts[h]?.bind (·.log.verdict)).map Verdict.name) w.now)) w.observer)) := by
  cases trace with
  | none => rfl
  | some id => rfl

theorem closeTrace_parallel (placed : s.place trace = s.place trace') (h : Nat) :
    Parallel s (Scenario.closeTrace h trace : SimM κ μ Unit) (Scenario.closeTrace h trace') := by
  intro w w' same
  have verdicts : w'.hosts[h]?.bind (·.log.verdict) = w.hosts[h]?.bind (·.log.verdict) := by
    have there := same.sameHosts.each h
    generalize w.hosts[h]? = host?, w'.hosts[h]? = host?' at there ⊢
    cases there with
    | none => rfl
    | some alike =>
      obtain ⟨_, ⟨_, _⟩⟩ := alike
      rfl
  rw [closeTrace_eq, closeTrace_eq, verdicts, same.now]
  obtain ⟨alike, radio, viewed⟩ := same
  exact .ok () ⟨alike, radio, Sight.view_recorded (Sight.records_close _ _) placed viewed⟩

/-- The run of a script does not depend on where it is recorded and whether its lines are shown. -/
theorem runScript_parallel {act : Behaviour κ μ} (calls : ∀ c cue, Oblivious s (act c cue)) (fuel : Nat)
    (script : Script κ) (placed : s.place trace = s.place trace') (echo echo' : Bool) :
    Parallel s (Scenario.runScript act fuel script trace echo)
      (Scenario.runScript act fuel script trace' echo') := by
  unfold Scenario.runScript
  refine aim_parallel placed ?_
  refine Parallel.bind (attach_parallel (Script.alike_recordIn placed script) (.mk echo' placed))
    fun h => ?_
  intro w w' same
  have ran := Oblivious.hostRun calls fuel h w w' same
  dsimp only
  generalize Host.run act fuel h w = r, Host.run act fuel h w' = r' at ran ⊢
  cases ran with
  | ok _ same => exact (closeTrace_parallel placed h _ _ same).bind fun _ => Parallel.pure h
  | error i same =>
    exact (closeTrace_parallel placed h _ _ same).bind fun _ _ _ same => .error i same

end Script

section Code

/-- Users' code that does not look at what observes it: what it does depends on the world, and so does
what it makes of it, by what is the same in all worlds that differ in their observers alone. -/
def Session.Program.Discreet : Program κ μ → Prop
  | .answer _ | .raise _ => True
  | .schedule _ _ next | .scheduleAt _ _ next | .stop next | .emit _ _ next | .start _ next
  | .registerDeadline _ _ _ next | .pass _ next | .failTest _ _ next | .write _ _ _ next =>
    next.Discreet
  | .step next => ∀ fired, (next fired).Discreet
  | .run _ next => ∀ time, (next time).Discreet
  | .attach _ _ next => ∀ h, (next h).Discreet
  | .alter change next =>
    (∀ s w w', Same s w w' → Same s (change w) (change w')) ∧ next.Discreet
  | .consult next => (∀ w w', Same .nothing w w' → next w' = next w) ∧ ∀ w, (next w).Discreet

theorem Script.alike_self (script : Script κ) : Script.Alike s script script := by
  cases script with
  | linkFault timeout attached state => exact .linkFault timeout attached state
  | reception timeout attached trace state => exact .reception timeout attached state rfl
  | code c => exact .code c

theorem Same.altered {w w' : World κ (Diary μ)} {change : World κ (Diary μ) → World κ (Diary μ)}
    (same : Same s w w') (respects : Same s (change w) (change w')) :
    Same s (Session.altered change w) (Session.altered change w') := by
  unfold Session.altered
  generalize change w = v, change w' = v' at respects ⊢
  obtain ⟨alike, _, _⟩ := same
  obtain ⟨_, placed, viewed⟩ := respects
  exact ⟨alike, placed, viewed⟩

variable {act : Behaviour κ (Diary μ)}

theorem exec_oblivious (calls : ∀ c cue, Oblivious s (act c cue)) (fuel : Nat) (p : Program κ μ)
    (discreet : p.Discreet) : Oblivious s (p.exec act fuel) := by
  have notes (f : Diary μ → Diary μ) : Oblivious s (Diary.change f : SimM κ (Diary μ) Unit) :=
    Parallel.modify fun ⟨alike, placed, viewed⟩ => ⟨alike, placed, viewed⟩
  induction p with
  | answer done => exact Parallel.pure done
  | raise f => exact Parallel.fail f
  | schedule delay event next ih => exact (Oblivious.schedule _ _).bind fun _ => ih discreet
  | scheduleAt time event next ih => exact (Oblivious.scheduleAt _ _).bind fun _ => ih discreet
  | stop next ih => exact Oblivious.stop.bind fun _ => ih discreet
  | emit mote msg next ih =>
    exact (Oblivious.emit (Oblivious.hear calls) mote msg).bind fun _ => ih discreet
  | step next ih =>
    exact (Oblivious.step (Oblivious.fire calls)).bind fun fired => ih fired (discreet fired)
  | run bound next ih =>
    refine (notes _).bind fun _ => ?_
    exact (Oblivious.run (Oblivious.fire calls) bound fuel).bind fun time => ih time (discreet time)
  | attach script log next ih =>
    refine Parallel.bind ?_ fun h => ih h (discreet h)
    exact attach_parallel (Script.alike_self script) (.mk log.echo rfl)
  | start h next ih => exact (Oblivious.start calls).bind fun _ => ih discreet
  | registerDeadline h after action next ih =>
    exact (Oblivious.registerDeadline after action).bind fun _ => ih discreet
  | pass h next ih => exact (notes _).bind fun _ => Oblivious.pass.bind fun _ => ih discreet
  | failTest h reason next ih => exact (Oblivious.failTest reason).bind fun _ => ih discreet
  | write h text mote next ih => exact (Oblivious.write text mote).bind fun _ => ih discreet
  | alter change next ih =>
    refine Parallel.bind (Parallel.modify fun {w w'} same => ?_) fun _ => ih discreet.2
    exact same.altered (discreet.1 s w w' same)
  | consult next ih =>
    refine Parallel.reads fun {w w'} same => ?_
    rw [discreet.1 w w' same.unseen]
    exact ih w (discreet.2 w)

theorem behaviour_oblivious {code : κ → Cue → Program κ μ}
    (discreet : ∀ c cue, (code c cue).Discreet) (limit : Nat) (c : κ) (cue : Cue) :
    Oblivious s (behaviour code limit c cue) := by
  induction limit generalizing c cue with
  | zero => exact fun _ _ same => .error _ same
  | succ limit ih =>
    intro w w' same
    have ran := exec_oblivious ih limit (code c cue) (discreet c cue) w w' same
    unfold behaviour watched
    generalize (code c cue).exec (behaviour code limit) limit w = r,
      (code c cue).exec (behaviour code limit) limit w' = r' at ran ⊢
    cases ran with
    | ok done same => exact .ok done same
    | error i same =>
      cases i with
      | exhausted => exact .error _ same
      | failure f =>
        refine .error _ ?_
        obtain ⟨alike, placed, viewed⟩ := same
        unfold noted
        split
        · exact ⟨alike, placed, viewed⟩
        · exact ⟨alike, placed, viewed⟩

end Code

section Transparency

/-- Whatever is recorded of the run of a script, wherever, and whether or not it can be written to files,
and whether or not lines are shown: the run has the same result, and it leaves behind the same world
but for what observes it. With the same trace, the rows that it keeps in memory are the same as well,
whatever becomes of its files. -/
theorem tracing_transparent {code : κ → Cue → Program κ μ}
    (discreet : ∀ c cue, (code c cue).Discreet) (script : Script κ) (limit fuel : Nat)
    (echo echo' : Bool) :
    (∀ trace trace',
      Parallel .nothing (Scenario.runScript (behaviour code limit) fuel script trace echo)
        (Scenario.runScript (behaviour code limit) fuel script trace' echo')) ∧
    ∀ trace,
      Parallel .rows (Scenario.runScript (behaviour code limit) fuel script trace echo)
        (Scenario.runScript (behaviour code limit) fuel script trace echo') := by
  refine ⟨fun trace trace' => ?_, fun trace => ?_⟩
  · have unseen : Sight.nothing.place trace = Sight.nothing.place trace' := rfl
    exact runScript_parallel (behaviour_oblivious discreet limit) fuel script unseen echo echo'
  · exact runScript_parallel (behaviour_oblivious discreet limit) fuel script rfl echo echo'

/-- A listener that notes each line with its time. -/
def noting : Unit → Cue → Program Unit (List (Int × String × Int))
  | _, .heard mote msg =>
    .alter (fun w => { w with memory := { w.memory with own := w.memory.own ++ [(mote, msg, w.now)] } })
      (.answer false)
  | _, _ => .answer false

theorem noting_discreet (c : Unit) (cue : Cue) : (noting c cue).Discreet := by
  cases cue with
  | heard mote msg =>
    refine ⟨fun s w w' same => ?_, trivial⟩
    obtain ⟨alike, placed, viewed⟩ := same
    exact ⟨alike, placed, viewed⟩
  | due | setup _ | line _ _ _ | expired _ => trivial

/-- Two motes start, one asks for the link to be degraded and then ends the test, before that
listener. -/
def stage : World Unit (Diary (List (Int × String × Int))) :=
  final ((Program.schedule 0 (.line 1 "1 started") <| .schedule 10 (.line 3 "3 started") <|
      .schedule 20 (.line 1 "1 third") <| .schedule 30 (.line 1 "1 done") <| .answer false).exec
        (behaviour noting 1) 1)
    { World.plain { own := [] } with listeners := [.code ()] }

/-- An observer with a trace that has files, and with or without space for them. -/
def audience (full : Bool) : Observer where
  disk := { full := fun _ => full }
  traces := #[{ logFile := some ["log.csv"], linkFile := some ["link.csv"] }]

theorem tracing_transparent_stage :
    let run := fun trace echo =>
      Scenario.runScript (behaviour noting 1) 10 (ScriptName.linkFault.script Config.standard none)
        trace echo
    let unwritable := stage.seenBy (audience true)
    let writable := stage.seenBy (audience false)
    (∀ c cue, (noting c cue).Discreet) ∧ Same .nothing stage unwritable ∧
      Same .rows unwritable writable ∧
      (final (run none true) stage).memory.own =
        [(1, "1 started", 0), (3, "3 started", 10), (1, "1 third", 20), (1, "1 done", 30)] ∧
      (final (run (some 0) true) unwritable).observer.disk.entries.length = 0 ∧
      (final (run (some 0) true) writable).observer.disk.entries.length = 1 ∧
      Matches .nothing (run none true stage) (run (some 0) false unwritable) ∧
      Matches .rows (run (some 0) true unwritable) (run (some 0) false writable) := by
  intro run unwritable writable
  have unhosted (s : Sight) : SameHosts s stage.hosts stage.hosts := by
    refine ⟨rfl, fun i => ?_⟩
    rw [show stage.hosts = #[] from rfl, Array.getElem?_empty]
    exact .none
  have untraced : Same .nothing stage unwritable := ⟨unhosted _, rfl, rfl⟩
  have traced : Same .rows unwritable writable := ⟨unhosted _, rfl, rfl⟩
  have transparent (echo echo' : Bool) := tracing_transparent noting_discreet
    (ScriptName.linkFault.script Config.standard none) 1 10 echo echo'
  refine ⟨noting_discreet, untraced, traced, ?_⟩
  refine ⟨by decide +kernel, by decide +kernel, by decide +kernel, ?_, ?_⟩
  · exact (transparent true false).1 none (some 0) _ _ untraced
  · exact (transparent true false).2 (some 0) _ _ traced

end Transparency

end MoteTrial
