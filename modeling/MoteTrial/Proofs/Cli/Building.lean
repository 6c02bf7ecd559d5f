import MoteTrial.Cli.Session
import MoteTrial.Proofs.Session.Punctuality
import MoteTrial.Proofs.Trace.Completeness
import MoteTrial.Proofs.Trace.Summary

/-! # Worlds built from the command line

Whatever options and files say, a world that is built for a run has no hosts, no changes of links and no
event in the past, and the traces are as they were: `Built`. So what is known of tests on such worlds is
known of the test of a run: if it returns, its time and what it has recorded as lost can be written.
-/

namespace MoteTrial.Cli

open SimM Simulation MoteTrial.Session Scenario

variable {rows : Array Trace} {t : Nat}

section Worlds

variable {κ μ : Type}

/-- A world before a test, with the rows of traces that were there before it was built. -/
structure Built (rows : Array Trace) (w : World κ μ) : Prop where
  unhosted : w.hosts = #[]
  unchanged : w.medium.mutations = #[]
  kept : w.observer.rows = rows
  timely : ∀ a ∈ w.scheduler.pending, w.now ≤ a.due

theorem Built.untested {w : World κ μ} (built : Built rows w) (fresh : rows[t]? = some {}) :
    Untested t w := by
  refine ⟨built.unhosted, built.unchanged, ?_, built.timely⟩
  rw [built.kept]
  exact fresh

theorem Built.registered {w : World κ μ} (built : Built rows w) {due : Int} (later : w.now ≤ due)
    (event : Event κ) : Built rows (w.register due event) :=
  { built with timely := World.timely_register built.timely later event }

/-- An operation that builds. -/
abbrev Builds (rows : Array Trace) {α : Type} (m : SimM κ μ α) : Prop :=
  KeepsReturning (Built rows) m

theorem ofExcept_builds {α : Type} (result : Except Failure α) :
    Builds rows (SimM.ofExcept result : SimM κ μ α) := Keeps.ofExcept (fun _ _ => trivial) result

theorem schedule_builds (delay : Int) (event : Event κ) :
    Builds rows (Simulation.schedule delay event : SimM κ μ Unit) := by
  intro w built
  by_cases negative : delay < 0
  · rw [schedule_past negative]
    trivial
  · rw [schedule_apply (by omega)]
    exact built.registered (by omega) event

theorem scheduleAt_builds (time : Int) (event : Event κ) :
    Builds rows (Simulation.scheduleAt time event : SimM κ μ Unit) := by
  intro w built
  rw [scheduleAt_apply]
  exact built.registered (by omega) event

theorem setMote_builds (id : Int) (mote : Mote) :
    Builds rows (setMote id mote : SimM κ μ Unit) :=
  Keeps.modify fun built => ⟨built.unhosted, built.unchanged, built.kept, built.timely⟩

theorem addMote_builds (id : Int) (firmware : Option Firmware) :
    Builds rows (addMote id firmware : SimM κ μ Unit) :=
  Keeps.addMote (fun _ _ => trivial) fun built _ _ =>
    ⟨built.unhosted, built.unchanged, built.kept, built.timely⟩

theorem getMote_builds (id : Int) : Builds rows (getMote id : SimM κ μ Mote) := by
  unfold getMote
  refine Keeps.reads fun w => ?_
  split
  · exact Keeps.pure _
  · exact (setMote_builds id _).bind fun _ => Keeps.pure _

theorem link_builds (a b : Int) (ratio : Option Amount) :
    Builds rows (link a b ratio : SimM κ μ Link) := by
  unfold link
  refine (ofExcept_builds _).bind fun ratio w built => ?_
  cases added : w.medium.addLink w.config a b ratio with
  | error f =>
    rw [onMedium_error added]
    trivial
  | ok result =>
    obtain ⟨link, medium⟩ := result
    rw [onMedium_ok added]
    exact { built with unchanged := (Medium.mutations_addLink added).trans built.unchanged }

theorem bootAll_builds : Builds rows (bootAll : SimM κ μ Unit) :=
  Keeps.bootAll fun _ _ => schedule_builds _ _

theorem weakLinkNetwork_builds (client : Firmware) :
    Builds rows (weakLinkNetwork client : SimM κ μ Unit) := by
  unfold weakLinkNetwork
  refine Keeps.reads fun w => (addMote_builds _ _).bind fun _ => (addMote_builds _ _).bind fun _ => ?_
  refine (addMote_builds _ _).bind fun _ => (link_builds _ _ _).bind fun _ => ?_
  exact (link_builds _ _ _).bind fun _ => (link_builds _ _ _).bind fun _ => bootAll_builds

theorem receptionNetwork_builds (client : Firmware) (ratio : Option Amount) :
    Builds rows (receptionNetwork client ratio : SimM κ μ Unit) := by
  unfold receptionNetwork
  refine Keeps.reads fun w => (addMote_builds _ _).bind fun _ => (addMote_builds _ _).bind fun _ => ?_
  exact (link_builds _ _ _).bind fun _ => bootAll_builds

theorem replay_builds (records : List LogFile.Record) :
    Builds rows (Replay.schedule records : SimM κ μ Unit) := by
  induction records with
  | nil => exact Keeps.pure _
  | cons record rest ih =>
    unfold Replay.schedule
    exact (getMote_builds _).bind fun _ => (scheduleAt_builds _ _).bind fun _ => ih

theorem network_builds (name : ScriptName) (o : Options) : Builds rows (network name o) := by
  unfold network
  split
  · exact Keeps.reads fun w => weakLinkNetwork_builds _
  · exact Keeps.reads fun w => weakLinkNetwork_builds _
  · exact weakLinkNetwork_builds _
  · exact Keeps.reads fun w => receptionNetwork_builds _ _
  · exact Keeps.reads fun w => receptionNetwork_builds _ _
  · exact receptionNetwork_builds _ _

end Worlds

section Building

variable {config : Config} {seed : Int} {observer : Observer}

theorem freshWorld_built (config : Config) (seed : Int) (observer : Observer) :
    Returns (fun w o => o = observer ∧ Built o.rows { w with observer := o })
      (freshWorld config seed observer) := by
  unfold freshWorld World.ofSeed Medium.ofSeed
  rw [get_bind_apply]
  by_cases negative : seed < 0
  · simp only [Option.getD_some, negative, ↓reduceIte]
    trivial
  · simp only [Option.getD_some, negative, ↓reduceIte]
    exact ⟨rfl, rfl, rfl, rfl, fun _ member => absurd member List.not_mem_nil⟩

/-- What is kept in a world is left in it, with its observer put back. -/
theorem inWorld_returns {α : Type} {I : PlainWorld → Prop} {m : SimM Unit Unit α} {w : PlainWorld}
    (kept : Session.Kept I (fun _ _ => True) (m { w with observer })) :
    Returns (fun result o => o = result.2.observer ∧ I result.2) (inWorld w m observer) := by
  unfold inWorld
  cases ran : m { w with observer } with
  | ok a w' =>
    rw [ran] at kept
    exact ⟨rfl, kept⟩
  | error i w' =>
    cases i with
    | failure f | exhausted => trivial

theorem loadLog_kept (path : String) (observer : Observer) :
    Returns (fun _ o => o.rows = observer.rows) (loadLog path observer) := by
  have kept := Observer.traces_onDisk (Disk.read path) observer
  unfold loadLog
  cases read : Observer.onDisk (Disk.read path) observer with
  | error f o =>
    rw [bind_error read]
    trivial
  | ok content o =>
    rw [read] at kept
    rw [bind_ok read]
    cases LogFile.ofBytes content.toList with
    | error f => trivial
    | ok records => exact congrArg (Array.map Trace.inMemory) kept

/-- A world that is built in place of a fresh one. -/
theorem inFresh_built (config : Config) (seed : Int) {m : SimM Unit Unit Unit} (observer : Observer)
    (builds : ∀ rows, Builds rows m) :
    Returns (fun w o => o = w.observer ∧ Built observer.rows w)
      ((do return (← inWorld (← freshWorld config seed) m).2 : ObserverM PlainWorld) observer) := by
  refine (freshWorld_built config seed observer).bind fun w o ⟨same, fresh⟩ => ?_
  rw [← same]
  exact (inWorld_returns (builds o.rows _ fresh)).bind fun result o' built => built

theorem build_built (config : Config) (seed : Int) (name : ScriptName) (o : Options)
    (observer : Observer) :
    Returns (fun w o' => o' = w.observer ∧ Built observer.rows w)
      (build config seed name o observer) := by
  unfold build
  cases o.replay with
  | none => exact inFresh_built config seed observer fun _ => network_builds name o
  | some path =>
    dsimp only
    split
    · exact inFresh_built config seed observer fun _ => network_builds name o
    · refine (loadLog_kept path observer).bind fun records o' kept => ?_
      rw [modify_bind_apply, ← kept]
      exact inFresh_built config seed (o'.print _) fun _ => replay_builds records

end Building

section Test

variable {w : PlainWorld}

theorem refuses : Refuses behaviour := fun _ _ w => ⟨_, w, rfl⟩

/-- A test without a deadline does not get past its start. -/
theorem runScript_blank (unhosted : w.hosts = #[]) (trace : Option Nat) (fuel : Nat) :
    Returns (fun _ _ => False) (runScript behaviour fuel (.code ()) trace true w) := by
  obtain ⟨returns, raises⟩ := Deadline.runScript_closes behaviour fuel unhosted (.code ()) trace true
  have refused : Returns (fun _ _ => False)
      (Host.setup behaviour 0 (Deadline.attaching (.code ()) trace true w)) := trivial
  have started : Returns (fun _ _ => False)
      (Host.start behaviour 0 (Deadline.attaching (.code ()) trace true w)) :=
    (returns_guarded 0 refused).bind fun _ _ no => no.elim
  have ran : Returns (fun _ _ => False)
      (Host.run behaviour fuel 0 (Deadline.attaching (.code ()) trace true w)) :=
    started.bind fun _ _ no => no.elim
  cases ended : Host.run behaviour fuel 0 (Deadline.attaching (.code ()) trace true w) with
  | ok u v =>
    rw [ended] at ran
    exact ran.elim
  | error i v =>
    obtain ⟨o, closed⟩ := Deadline.closeTrace_apply 0 trace v
    rw [raises i v ended, bind_ok closed]
    trivial

theorem runScript_lossesShown (untested : Untested t w) (config : Config) (name : ScriptName)
    (timeout : Option (Setting Int)) :
    Returns (fun _ w' => LossesShown t w'.observer)
      (runScript behaviour eventLimit (script config name timeout) (some t) true w) := by
  have built (timeout : Option Int) : Returns (fun _ w' => LossesShown t w'.observer)
      (runScript behaviour eventLimit (name.script config timeout) (some t) true w) := by
    have started : Traced t (fun _ => False) (fun _ => True) false _ _ _ :=
      untested.recorded trivial name config timeout true
    have calls (c : Unit) (cue : Cue) :
        KeepsRecord t (fun _ => False) (fun _ => True) (behaviour c cue) :=
      Keeps.fails (fun tracing _ => tracing) _
    obtain ⟨host, row, recorded⟩ := (Tracing.hostRun calls started eventLimit).final
    have kept := recorded.closed
    have closed := final_runScript behaviour eventLimit untested.unhosted (name.script config timeout)
      true (t := t)
    cases ran : runScript behaviour eventLimit (name.script config timeout) (some t) true w with
    | ok h w' =>
      rw [final_ok ran] at closed
      intro reception member
      have rows : (w'.observer.trace t).receptionRows = row.receptionRows := by
        change (w'.observer.trace t).inMemory.receptionRows = _
        rw [Observer.inMemory_trace, closed, kept]
        rfl
      exact (recorded.written reception (rows ▸ member)).2
    | error i w' => trivial
  cases timeout with
  | none => exact built none
  | some given =>
    cases given with
    | value deadline => exact built (some deadline)
    | blank => exact (runScript_blank untested.unhosted (some t) eventLimit).imp fun _ _ no => no.elim

/-- If the test of a run returns, its time can be written, and so can what is lost by its trace. -/
theorem runTest_returns (config : Config) (seed : Int) (name : ScriptName) (o : Options)
    (trace : Option Nat) (observer : Observer) :
    Returns (fun result o' => Numeral.isWritable result.2.now = true ∧
        ∀ t ∈ trace, observer.rows[t]? = some {} → LossesShown t o')
      (runTest config seed name o trace observer) := by
  unfold runTest
  refine (build_built config seed name o observer).bind fun w o' ⟨same, built⟩ => ?_
  subst same
  have kept : Session.Kept (fun w' => Numeral.isWritable w'.now = true ∧
      ∀ t ∈ trace, observer.rows[t]? = some {} → LossesShown t w'.observer) (fun _ _ => True)
      (runScript behaviour eventLimit (script config name o.timeout) trace true w) := by
    have punctual := runScript_punctual refuses built.unhosted (script config name o.timeout) trace true
      eventLimit
    cases ran : runScript behaviour eventLimit (script config name o.timeout) trace true w with
    | ok h w' =>
      rw [ran] at punctual
      refine ⟨punctual, fun t traced fresh => ?_⟩
      rw [Option.mem_def.mp traced] at ran
      have shown := runScript_lossesShown (built.untested fresh) config name o.timeout
      rw [ran] at shown
      exact shown
    | error i w' => trivial
  refine (inWorld_returns kept).bind fun result o'' ⟨same, writable, shown⟩ => ⟨writable, ?_⟩
  rw [same]
  exact shown

end Test

end MoteTrial.Cli
