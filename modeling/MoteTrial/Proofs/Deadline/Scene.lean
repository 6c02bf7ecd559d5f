import MoteTrial.Proofs.Session.Motes

/-! # A test with a built-in script while an event is carried out

Of a test with one host and no other listener, `Scene` says what an event leaves as it is: the
parameters, the clock, the events that are still to come. What it may change is the host, so a scene
comes with a predicate of the host. The operations of the host lead from scene to scene, or fail in one
in which the test has not been given up for lack of events.
-/

namespace MoteTrial.Deadline

open SimM Simulation Session

variable {κ μ : Type}

/-- A moment of a test with one host, at a time, with these events still to come. -/
structure Scene (config : Config) (time : Int) (queue : List (Appointment (Event κ)))
    (holds : Host κ → Bool → Prop) (w : World κ μ) : Prop where
  config : w.config = config
  now : w.now = time
  pending : w.scheduler.pending = queue
  listeners : w.listeners = [.host 0]
  host : ∃ host, w.hosts[0]? = some host ∧ holds host w.scheduler.stopped

/-- A test that was not given up because no events were left. -/
def Fair (host : Host κ) (_ : Bool) : Prop :=
  host.log.reason ≠ "simulation ended before the script finished"

/-- What a failure leaves behind. -/
def Breaks (config : Config) (time : Int) (queue : List (Appointment (Event κ))) :
    Interrupt → World κ μ → Prop
  | .failure _, w => Scene config time queue Fair w
  | .exhausted, _ => False

section Steps

variable {c : Config} {t : Int} {queue : List (Appointment (Event κ))} {P Q : Host κ → Bool → Prop}
  {w w' : World κ μ} {α : Type}

namespace Scene

theorem imp (scene : Scene c t queue P w) (implies : ∀ host s, P host s → Q host s) :
    Scene c t queue Q w := by
  obtain ⟨host, present, holds⟩ := scene.host
  exact ⟨scene.config, scene.now, scene.pending, scene.listeners, host, present, implies _ _ holds⟩

theorem aside (scene : Scene c t queue P w) (apart : Apart w w') : Scene c t queue P w' := by
  obtain ⟨host, present, holds⟩ := scene.host
  refine ⟨apart.config.trans scene.config, ?_, ?_, apart.listeners.trans scene.listeners, host, ?_, ?_⟩
  · rw [World.now, apart.scheduler]
    exact scene.now
  · rw [apart.scheduler]
    exact scene.pending
  · rw [apart.hosts]
    exact present
  · rw [apart.scheduler]
    exact holds

theorem seenBy (scene : Scene c t queue P w) (o : Observer) : Scene c t queue P (w.seenBy o) :=
  scene.aside ⟨rfl, rfl, rfl, rfl, rfl, fun _ there => there⟩

/-- A scene with another host in place of its own. -/
theorem setHost (scene : Scene c t queue P w) {host host' : Host κ} (present : w.hosts[0]? = some host)
    (holds : Q host' w.scheduler.stopped) : Scene c t queue Q (w.setHost 0 host') :=
  ⟨scene.config, scene.now, scene.pending, scene.listeners, host', World.hosts_setHost present host',
    holds⟩

theorem change (scene : Scene c t queue P w) (f : Host κ → Host κ)
    (changes : ∀ host s, P host s → Q (f host) s) :
    Session.Kept (Scene c t queue Q) (Breaks c t queue) (Host.change 0 f w) := by
  obtain ⟨host, present, holds⟩ := scene.host
  rw [Host.change_apply present]
  exact scene.setHost present (changes _ _ holds)

theorem stop (scene : Scene c t queue P w) (stops : ∀ host s, P host s → Q host true) :
    Session.Kept (Scene c t queue Q) (Breaks c t queue) (Simulation.stop w) := by
  obtain ⟨host, present, holds⟩ := scene.host
  exact ⟨scene.config, scene.now, scene.pending, scene.listeners, host, present, stops _ _ holds⟩

theorem pass (scene : Scene c t queue P w) (fair : ∀ host s, P host s → Fair host s)
    (passes : ∀ host s, P host s → Q { host with log := host.log.succeeded } s) :
    Session.Kept (Scene c t queue Q) (Breaks c t queue) (Host.pass 0 w) := by
  obtain ⟨host, present, holds⟩ := scene.host
  change Session.Kept _ _ (Host.onLog 0 (TestLog.pass w.now) w)
  rcases TestLog.pass_cases w.now host.log w.observer with ⟨o, passed⟩ | ⟨_, unwritten⟩
  · rw [Host.onLog_apply present passed]
    exact (scene.setHost present (passes _ _ holds)).seenBy o
  · rw [Host.onLog_error present unwritten]
    exact (scene.setHost present (fair _ _ holds)).seenBy w.observer

theorem failTest (scene : Scene c t queue P w) (reason : String)
    (fails : ∀ host s, P host s → Q { host with log := host.log.failed reason } s)
    (fair : ∀ host s, Q host s → Fair host s) :
    Session.Kept (Scene c t queue Q) (Breaks c t queue) (Host.failTest 0 reason w) := by
  obtain ⟨host, present, holds⟩ := scene.host
  have failed := scene.setHost present (fails _ _ holds)
  change Session.Kept _ _ (Host.onLog 0 (TestLog.fail w.now reason) w)
  obtain ⟨o, noted | ⟨_, unwritten⟩⟩ := TestLog.fail_cases w.now reason host.log w.observer
  · rw [Host.onLog_apply present noted]
    exact failed.seenBy o
  · rw [Host.onLog_error present unwritten]
    exact (failed.imp fair).seenBy o

theorem write (scene : Scene c t queue P w) (text : String) (mote : Int)
    (writes : ∀ host s, P host s → Q { host with log := host.log.added text } s) :
    Session.Kept (Scene c t queue Q) (Breaks c t queue) (Host.write 0 text mote w) := by
  obtain ⟨host, present, holds⟩ := scene.host
  obtain ⟨o, written⟩ := Host.write_apply present text mote
  rw [written]
  exact (scene.setHost present (writes _ _ holds)).seenBy o

end Scene

theorem carries (fair : ∀ host s, P host s → Fair host s) :
    Carries (Scene (κ := κ) (μ := μ) c t queue P) (Breaks c t queue) :=
  ⟨Scene.aside, fun scene _ => scene.imp fair⟩

/-- An operation never runs out of fuel here. -/
theorem yields_of_kept {I : World κ μ → Prop} {r : EStateM.Result Interrupt (World κ μ) α}
    (kept : Session.Kept I (Breaks c t queue) r) :
    Yields (fun _ => I) (fun _ => Scene c t queue Fair) r := by
  cases r with
  | ok a w => exact kept
  | error i w =>
    cases i with
    | failure f => exact kept
    | exhausted => exact kept

theorem kept_of_yields {I : World κ μ → Prop} {r : EStateM.Result Interrupt (World κ μ) α}
    (yields : Yields (fun _ => I) (fun _ => Scene c t queue Fair) r) :
    Session.Kept I (Breaks c t queue) r := by
  cases r with
  | ok a w => exact yields
  | error i w =>
    cases i with
    | failure f => exact yields
    | exhausted => exact yields

end Steps

section Endings

variable {c : Config} {t : Int} {queue : List (Appointment (Event κ))} {P Q : Host κ → Bool → Prop}
  {w : World κ μ} {host : Host κ} {stopped : Bool}

/-- A text with a character that the reason for giving up lacks is another reason. -/
theorem reason_ne {reason : String} (letter : Char) (has : letter ∈ reason.toList)
    (lacks : letter ∉ "simulation ended before the script finished".toList) :
    reason ≠ "simulation ended before the script finished" := by
  rintro rfl
  exact lacks has

theorem Fair.failed (fair : Fair host stopped) {reason : String}
    (other : reason ≠ "simulation ended before the script finished") :
    Fair { host with log := host.log.failed reason } stopped := by
  unfold Fair TestLog.failed
  split
  · exact fair
  · exact other

theorem Fair.closed (fair : Fair host stopped) : Fair host.closed true := by
  unfold Host.closed
  cases host.log.verdict.isNone with
  | true =>
    have marked : Fair { host with finished := true } true := fair
    refine marked.failed ?_
    cases host.timedOut with
    | true => decide
    | false => decide
  | false => exact fair

/-- A host that finishes is closed, and the simulation stopped. -/
theorem Scene.finish (scene : Scene c t queue P w) (fair : ∀ host s, P host s → Fair host s)
    (closes : ∀ host s, P host s → Q host.closed true) :
    Session.Kept (Scene c t queue Q) (Breaks c t queue) (Host.finish 0 w) := by
  obtain ⟨host, present, holds⟩ := scene.host
  have there := World.hosts_setHost present { host with finished := true }
  have marked : Scene c t queue (fun h _ => h = { host with finished := true })
      (w.setHost 0 { host with finished := true }) := scene.setHost present rfl
  unfold Host.finish
  rw [bind_ok (Host.change_apply present fun host => { host with finished := true }), get_bind_apply]
  simp only [there]
  cases undecided : host.log.verdict.isNone with
  | true =>
    have closed : Session.Kept (Scene c t queue fun h _ => h = host.closed) (Breaks c t queue)
        (Host.failTest 0 (if host.timedOut then "timeout" else "script ended without test_ok")
          (w.setHost 0 { host with finished := true })) := by
      refine marked.failTest _ ?_ ?_
      · rintro _ _ rfl
        simp only [Host.closed, undecided, ↓reduceIte]
      · rintro _ _ rfl
        exact Fair.closed (fair _ _ holds)
    exact closed.bind fun _ w scene => scene.stop fun _ _ same => same ▸ closes _ _ holds
  | false =>
    refine marked.stop ?_
    rintro _ _ rfl
    have closed := closes _ _ holds
    simpa only [Host.closed, undecided, Bool.false_eq_true, ↓reduceIte] using closed

/-- Dealing with a failure leaves a fair test. -/
theorem Scene.handleFailure (scene : Scene c t queue Fair w) (f : Failure) :
    Session.Kept (Scene c t queue Fair) (Breaks c t queue) (Host.handleFailure 0 f w) := by
  have other : f.name ++ ": " ++ f.message ≠ "simulation ended before the script finished" := by
    refine reason_ne ':' ?_ (by decide)
    simp
  unfold Host.handleFailure
  have noted : Session.Kept (Scene c t queue Fair) (Breaks c t queue)
      (Host.change 0 (fun host => { host with error := some f }) w) :=
    scene.change _ fun _ _ fair => fair
  refine noted.bind fun _ w scene => ?_
  obtain ⟨host, present, fair⟩ := scene.host
  rw [get_bind_apply]
  simp only [present, print_bind_apply]
  have told := scene.seenBy (w.observer.print
    ("❌ Script failed on " ++ Host.shownLine host.msg ++ ": " ++ f.message ++ "\n"))
  refine (told.failTest _ (fun _ _ fair => fair.failed other) fun _ _ fair => fair).bind
    fun _ w scene => ?_
  have ended : Session.Kept (Scene c t queue Fair) (Breaks c t queue)
      (Host.change 0 (fun host => { host with finished := true }) w) :=
    scene.change _ fun _ _ fair => fair
  exact ended.bind fun _ w scene => scene.stop fun _ _ fair => fair

/-- A failure of a part of the script is dealt with and goes on. -/
theorem guarded_yields {good : Bool → World κ μ → Prop} {m : SimM κ μ Bool}
    (part : Yields good (fun _ => Scene c t queue Fair) (m w)) :
    Yields good (fun _ => Scene c t queue Fair) (Host.guarded 0 m w) := by
  unfold Host.guarded
  cases run : m w with
  | ok done w' =>
    rw [run] at part
    exact part
  | error i w' =>
    rw [run] at part
    cases i with
    | exhausted => exact part
    | failure f =>
      have dealt := Scene.handleFailure part f
      exact (yields_of_kept dealt).bind fun _ w scene => scene

end Endings

end MoteTrial.Deadline
