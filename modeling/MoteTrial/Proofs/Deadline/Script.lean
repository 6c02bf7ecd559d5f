import MoteTrial.Proofs.Deadline.Scene
import MoteTrial.Proofs.Host.Hearing

/-! # What a built-in script makes of a line and of its deadline

A test that is underway goes on with every line, unless the line says that it is done, which clears it.
At the deadline it times out. A test that has been cleared hears nothing more.
-/

namespace MoteTrial.Deadline

open SimM Simulation Session

variable {κ μ : Type}

/-- The script of a name, in whatever state. -/
def Plays (name : ScriptName) : Script κ → Prop
  | .linkFault _ _ _ => name = .linkFault
  | .reception _ _ _ _ => name = .reception
  | .code _ => False

/-- A test that has not ended. -/
structure Underway (name : ScriptName) (host : Host κ) (stopped : Bool) : Prop where
  script : Plays name host.script
  unfinished : host.finished = false
  untimed : host.timedOut = false
  undecided : host.log.verdict = none
  unreasoned : host.log.reason = ""
  running : stopped = false

/-- A test that a line with the word for the end has passed, which may be only if it was `early`. -/
structure Cleared (name : ScriptName) (early : Prop) (host : Host κ) : Prop where
  linkFault : name = .linkFault
  untimed : host.timedOut = false
  passed : host.log.verdict = some .passed
  unreasoned : host.log.reason = ""
  line : ∃ msg, host.msg = some msg ∧ Message.classify msg = .done
  early : early

/-- A test that has ended so. -/
structure Ended (name : ScriptName) (early : Prop) (host : Host κ) (stopped : Bool) : Prop
    extends Cleared name early host where
  finished : host.finished = true
  stopped : stopped = true

/-- A test that goes on or has passed. -/
def Active (name : ScriptName) (early : Prop) (host : Host κ) (stopped : Bool) : Prop :=
  Underway name host stopped ∨ Ended name early host stopped

/-- A test whose deadline has expired. -/
structure TimedOut (host : Host κ) (stopped : Bool) : Prop where
  finished : host.finished = true
  timedOut : host.timedOut = true
  fair : Fair host stopped
  stopped : stopped = true

section Line

variable {c : Config} {t : Int} {queue : List (Appointment (Event κ))} {name : ScriptName}
  {early : Prop} {w : World κ μ} {host : Host κ} {stopped : Bool} {msg : String}

theorem Underway.fair (underway : Underway name host stopped) : Fair host stopped := by
  unfold Fair
  rw [underway.unreasoned]
  decide

theorem Cleared.fair (cleared : Cleared name early host) : Fair host stopped := by
  unfold Fair
  rw [cleared.unreasoned]
  decide

theorem Active.fair (active : Active name early host stopped) : Fair host stopped := by
  rcases active with underway | ended
  · exact underway.fair
  · exact ended.toCleared.fair

/-- A test that is underway, with a line before it. -/
structure Facing (name : ScriptName) (msg : String) (host : Host κ) (stopped : Bool) : Prop
    extends Underway name host stopped where
  msg : host.msg = some msg

/-- What is left of a test when its script has handled a line, depending on whether it is done. -/
def Handled (name : ScriptName) (early : Prop) (msg : String) :
    Bool → Host κ → Bool → Prop
  | true, host, _ => Cleared name early host ∧ host.finished = false
  | false, host, stopped => Facing name msg host stopped

theorem Facing.relinked (facing : Facing name msg host stopped) (f : LinkFault → LinkFault) :
    Facing name msg (Session.relinked f host) stopped := by
  have plays := facing.script
  unfold Session.relinked
  split
  · rename_i script
    rw [script] at plays
    exact { facing with script := plays }
  · exact facing

/-- A link-fault test is cleared by the line that says it is done. -/
theorem Facing.cleared (facing : Facing .linkFault msg host stopped)
    (done : Message.classify msg = .done) (inTime : early) :
    Handled .linkFault early msg true { host with log := host.log.succeeded } stopped :=
  ⟨⟨rfl, facing.untimed, rfl, facing.unreasoned, ⟨msg, facing.msg, done⟩, inTime⟩,
    facing.unfinished⟩

theorem handleLinkFault_yields
    (scene : Scene c t queue (Facing .linkFault msg) w) (attached : Bool)
    (inTime : Message.classify msg = .done → early) (state : LinkFault) (mote : Int) :
    Yields (fun done => Scene c t queue (Handled .linkFault early msg done))
      (fun _ => Scene c t queue Fair) (Host.handleLinkFault 0 attached state mote msg w) := by
  have fair (host : Host κ) (s : Bool) (facing : Facing .linkFault msg host s) : Fair host s :=
    facing.toUnderway.fair
  have carries : Carries (Scene (κ := κ) (μ := μ) c t queue (Facing .linkFault msg))
      (Breaks c t queue) := carries fair
  have relinks {w : World κ μ} (scene : Scene c t queue (Facing .linkFault msg) w)
      (f : LinkFault → LinkFault) :
      Yields (fun done => Scene c t queue (Handled .linkFault early msg done))
        (fun _ => Scene c t queue Fair)
        ((Host.changeLinkFault 0 f >>= fun _ => pure false) w) := by
    have relinked := scene.change (relinked f) fun _ _ facing => facing.relinked f
    exact (yields_of_kept relinked).bind fun _ w scene => scene
  unfold Host.handleLinkFault
  rw [get_bind_apply]
  cases kind : Message.classify msg with
  | done =>
    cases attached with
    | false => exact scene.imp fair
    | true =>
      have passed := scene.pass fair fun _ _ facing => facing.cleared kind (inTime kind)
      exact (yields_of_kept passed).bind fun _ w scene => scene
  | deteriorate | improve =>
    refine (yields_of_kept (carries.ofExcept _ w scene)).bind fun ends w scene => ?_
    refine (yields_of_kept (carries.changeLink _ ends.1 ends.2 w scene)).bind fun _ w scene => ?_
    exact relinks scene _
  | started =>
    dsimp only
    cases Message.startedEndpoint? w.config msg with
    | none => exact scene
    | some endpoint => exact relinks scene _
  | other =>
    cases attached with
    | false => exact scene.imp fair
    | true =>
      have written : Session.Kept (Scene c t queue (Facing .linkFault msg)) (Breaks c t queue)
          (Host.write 0 (msg ++ "\n") mote w) :=
        scene.write _ mote fun _ _ facing => { facing with }
      exact (yields_of_kept written).bind fun _ w scene => relinks scene _

theorem handleReception_yields (scene : Scene c t queue (Facing .reception msg) w) (timeout : Int)
    (attached : Bool) (trace : Option Nat) (state : Reception) (mote : Int) :
    Yields (fun done => Scene c t queue (Handled .reception early msg done))
      (fun _ => Scene c t queue Fair)
      (Host.handleReception 0 timeout attached trace state mote msg w) := by
  have fair (host : Host κ) (s : Bool) (facing : Facing .reception msg host s) : Fair host s :=
    facing.toUnderway.fair
  have carries : Carries (Scene (κ := κ) (μ := μ) c t queue (Facing .reception msg))
      (Breaks c t queue) := carries fair
  unfold Host.handleReception
  rw [get_bind_apply]
  refine (yields_of_kept (carries.ofExcept _ w scene)).bind fun found w scene => ?_
  cases found with
  | none => exact scene
  | some counter =>
    have counted : Session.Kept (Scene c t queue (Facing .reception msg)) (Breaks c t queue)
        (Host.change 0 (fun host =>
          { host with script := .reception timeout attached trace (state.record counter) }) w) :=
      scene.change _ fun _ _ facing => { facing with script := rfl }
    refine (yields_of_kept counted).bind fun _ w scene => ?_
    cases attached with
    | false => exact scene.imp fair
    | true =>
      refine (yields_of_kept (carries.ofExcept _ w scene)).bind fun shown w scene => ?_
      refine (yields_of_kept (carries.ofExcept _ w scene)).bind fun lost w scene => ?_
      refine (yields_of_kept (carries.ofExcept _ w scene)).bind fun last w scene => ?_
      have written : Session.Kept (Scene c t queue (Facing .reception msg)) (Breaks c t queue)
          (Host.write 0 (shown ++ " " ++ lost ++ " " ++ last ++ "\n") mote w) :=
        scene.write _ mote fun _ _ facing => { facing with }
      refine (yields_of_kept written).bind fun _ w scene => ?_
      cases trace with
      | none => exact scene
      | some id =>
        dsimp only
        rw [now_bind_apply]
        exact (yields_of_kept (carries.observe _ w scene)).bind fun _ w scene => scene

theorem handle_yields (act : Behaviour κ μ) (scene : Scene c t queue (Facing name msg) w)
    (inTime : Message.classify msg = .done → early) (mote : Int) :
    Yields (fun done => Scene c t queue (Handled name early msg done))
      (fun _ => Scene c t queue Fair) (Host.handle act 0 mote msg w) := by
  obtain ⟨host, present, facing⟩ := scene.host
  have plays := facing.script
  unfold Host.handle
  rw [get_bind_apply]
  simp only [present]
  cases script : host.script with
  | linkFault timeout attached state =>
    rw [script] at plays
    obtain rfl : name = .linkFault := plays
    exact handleLinkFault_yields scene attached inTime state mote
  | reception timeout attached trace state =>
    rw [script] at plays
    obtain rfl : name = .reception := plays
    exact handleReception_yields scene timeout attached trace state mote
  | code _ =>
    rw [script] at plays
    exact plays.elim

theorem Cleared.closed (cleared : Cleared name early host) : Ended name early host.closed true := by
  have decided : host.log.verdict.isNone = false := by rw [cleared.passed]; rfl
  have kept : host.closed.log = host.log := by
    simp only [Host.closed, decided, Bool.false_eq_true, ↓reduceIte]
  refine ⟨⟨cleared.linkFault, cleared.untimed, ?_, ?_, cleared.line, cleared.early⟩, rfl, rfl⟩
  · rw [kept]
    exact cleared.passed
  · rw [kept]
    exact cleared.unreasoned

/-- A test that is underway, or has been cleared, hears a line. -/
theorem hearLine_active (act : Behaviour κ μ) (scene : Scene c t queue (Active name early) w)
    (inTime : Message.classify msg = .done → early) (mote : Int) :
    Session.Kept (Scene c t queue (Active name early)) (Breaks c t queue)
      (Host.hearLine act 0 mote msg w) := by
  obtain ⟨host, present, active⟩ := scene.host
  rcases active with underway | ended
  · have unfinished := underway.unfinished
    have faces : Scene c t queue (Facing name msg) (w.setHost 0 (host.facing mote msg)) :=
      scene.setHost present { underway with msg := rfl }
    rw [Host.hearLine_listening act present unfinished]
    have handled := guarded_yields (handle_yields act faces inTime mote)
    refine kept_of_yields (handled.bind fun done w scene => ?_)
    cases done with
    | false => exact scene.imp fun _ _ facing => .inl facing.toUnderway
    | true =>
      obtain ⟨host, present, cleared, unfinished⟩ := scene.host
      simp only [↓reduceIte, get_bind_apply, present, unfinished, Bool.not_false]
      exact yields_of_kept (scene.finish (fun _ _ handled => handled.1.fair)
        fun _ _ handled => .inr handled.1.closed)
  · rw [Host.hearLine_finished present ended.finished]
    exact scene

/-- The only listener hears what a mote logs. -/
theorem emit_active (act : Behaviour κ μ) (scene : Scene c t queue (Active name early) w)
    (inTime : Message.classify msg = .done → early) (mote : Int) :
    Session.Kept (Scene c t queue (Active name early)) (Breaks c t queue)
      (Simulation.emit (Simulation.hear act) mote msg w) := by
  unfold Simulation.emit
  rw [get_bind_apply, scene.listeners]
  exact (hearLine_active act scene inTime mote).bind fun _ _ scene => scene

end Line

section Expiry

variable {c : Config} {t : Int} {queue : List (Appointment (Event κ))} {name : ScriptName}
  {w : World κ μ}

/-- A test whose deadline has expired, before it ends. -/
structure Expiring (name : ScriptName) (host : Host κ) (stopped : Bool) : Prop where
  script : Plays name host.script
  timedOut : host.timedOut = true
  fair : Fair host stopped

theorem deadlineAction_expiring (act : Behaviour κ μ) (scene : Scene c t queue (Expiring name) w) :
    Session.Kept (Scene c t queue (Expiring name)) (Breaks c t queue)
      (Host.deadlineAction act 0 .builtIn w) := by
  have fair (host : Host κ) (s : Bool) (expiring : Expiring name host s) : Fair host s :=
    expiring.fair
  obtain ⟨host, present, expiring⟩ := scene.host
  have plays := expiring.script
  unfold Host.deadlineAction
  simp only [get_bind_apply, present]
  cases script : host.script with
  | linkFault timeout attached state =>
    refine ((carries fair).ofExcept _ w scene).bind fun time w' scene => ?_
    have other : "no '" ++ w.config.keywordDone ++ "' within " ++ time ++ "ms" ≠
        "simulation ended before the script finished" := reason_ne '\'' (by simp) (by decide)
    have failed : Session.Kept (Scene c t queue (Expiring name)) (Breaks c t queue)
        (Host.failTest 0 ("no '" ++ w.config.keywordDone ++ "' within " ++ time ++ "ms") w') :=
      scene.failTest _ (fun _ _ expiring =>
        ⟨expiring.script, expiring.timedOut, expiring.fair.failed other⟩) fair
    exact failed.bind fun _ w scene => scene
  | reception timeout attached trace state =>
    dsimp only
    cases state.success with
    | false => exact scene
    | true =>
      have passed : Session.Kept (Scene c t queue (Expiring name)) (Breaks c t queue) (Host.pass 0 w) :=
        scene.pass fair fun _ _ expiring => ⟨expiring.script, expiring.timedOut, expiring.fair⟩
      exact passed.bind fun _ w scene => scene
  | code _ =>
    rw [script] at plays
    exact plays.elim

/-- A test that is underway times out when its deadline expires. -/
theorem expire_underway (act : Behaviour κ μ) (scene : Scene c t queue (Underway name) w)
    (after : Int) :
    Session.Kept (Scene c t queue TimedOut) (Breaks c t queue)
      (Host.expire act 0 after .builtIn w) := by
  obtain ⟨host, present, underway⟩ := scene.host
  have unfinished := underway.unfinished
  have expiring : Scene c t queue (Expiring name) (w.setHost 0 { host with timedOut := true }) :=
    scene.setHost present ⟨underway.script, rfl, underway.fair⟩
  have carries : Carries (Scene (κ := κ) (μ := μ) c t queue (Expiring name)) (Breaks c t queue) :=
    carries fun _ _ expiring => expiring.fair
  unfold Host.expire
  rw [get_bind_apply]
  simp only [present, unfinished, Bool.false_eq_true, ↓reduceIte]
  rw [bind_ok (Host.change_apply present fun host => { host with timedOut := true })]
  refine (carries.ofExcept _ _ expiring).bind fun time w scene => ?_
  refine (carries.print _ w scene).bind fun _ w scene => ?_
  have acted := guarded_yields (yields_of_kept (deadlineAction_expiring act scene))
  refine (kept_of_yields acted).bind fun _ w scene => ?_
  refine scene.finish (fun _ _ expiring => expiring.fair) fun _ _ expiring => ?_
  exact ⟨rfl, expiring.timedOut, expiring.fair.closed, rfl⟩

end Expiry

end MoteTrial.Deadline
