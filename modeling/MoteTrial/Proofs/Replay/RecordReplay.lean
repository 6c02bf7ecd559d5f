import MoteTrial.Proofs.Network.Reference
import MoteTrial.Proofs.Replay.Recording

/-! # Replays of recorded tests

The lines of a recorded test are written to a log file and replayed to a fresh copy of its script. The
replay ends as the recorded test did, `replay_alike`, since either end is what the script makes of the
recorded lines.
-/

namespace MoteTrial

open SimM Simulation Scenario LogFile Experiment

/-- A test of a network, with a recorder that listens before the host of the test. -/
def recordedTest (n : Network) (name : ScriptName) (timeout : Int) (echo : Bool) (fuel : Nat) :
    SimM Code Notebook Nat := do
  n.assemble
  addListener (.code .recorder)
  runScript behaviour fuel (name.script Config.standard (some timeout)) none echo

/-- A test of the lines of a log file. -/
def replayedTest (records : List Record) (name : ScriptName) (timeout : Int) (echo : Bool)
    (fuel : Nat) : SimM Code Notebook Nat := do
  Replay.schedule records
  runScript behaviour fuel (name.script Config.standard (some timeout)) none echo

/-- The recorded lines as the lines of a log file. -/
def World.logFile (w : World Code Notebook) : List String := w.recorded.map Record.write

/-- Worlds that agree on a test: on its host with the state of its script, its log, its verdict and its
error, on the changes that it made to links with their times, and on the time. -/
structure Agree {κ μ : Type} (w w' : World κ μ) : Prop where
  host : ∃ host, w.hosts[0]? = some host ∧ w'.hosts[0]? = some host
  mutations : w'.medium.mutations = w.medium.mutations
  now : w'.now = w.now

/-- Tests that end alike: both succeed, or both fail in the same way. -/
def Alike {κ μ α : Type} : EStateM.Result Interrupt (World κ μ) α →
    EStateM.Result Interrupt (World κ μ) α → Prop
  | .ok _ w, .ok _ w' => Agree w w'
  | .error (.failure f) w, .error (.failure f') w' => f' = f ∧ Agree w w'
  | _, _ => False

section Fidelity

variable {κ μ α : Type} {b : Bench κ}

theorem Bench.Describes.agree {w w' : World κ μ} (first : b.Describes w) (second : b.Describes w') :
    Agree w w' where
  host := ⟨b.host, first.host, second.host⟩
  mutations := second.mutations.trans first.mutations.symm
  now := second.now.trans first.now.symm

/-- Two ends that the same bench describes are alike. -/
theorem Bench.IsEnd.alike {r r' : EStateM.Result Interrupt (World κ μ) α} (first : b.IsEnd r)
    (second : b.IsEnd r') : Alike r r' := by
  cases r with
  | ok a w =>
    obtain ⟨described, sound⟩ := first
    cases r' with
    | ok a' w' => exact described.agree second.1
    | error i w' =>
      cases i with
      | failure f => cases sound.symm.trans second.2
      | exhausted => exact second.elim
  | error i w =>
    cases i with
    | failure f =>
      obtain ⟨described, failed⟩ := first
      cases r' with
      | ok a' w' => cases failed.symm.trans second.2
      | error i' w' =>
        cases i' with
        | failure f' =>
          exact ⟨Option.some.inj (second.2.symm.trans failed), described.agree second.1⟩
        | exhausted => exact second.elim
    | exhausted => exact first.elim

variable {name : ScriptName} {timeout : Int} {echo : Bool} {w w' : World Code Notebook}

/-- A recorded test once the network is put together. -/
theorem recordedTest_apply {n : Network} (assembled : n.assemble w = .ok () w') (fuel : Nat) :
    recordedTest n name timeout echo fuel w =
      runScript behaviour fuel (name.script Config.standard (some timeout)) none echo
        { w' with listeners := w'.listeners ++ [.code .recorder] } := by
  unfold recordedTest
  rw [bind_ok assembled]
  rfl

/-- The world in which a recorded test starts to run. -/
theorem Network.Ready.underway {n : Network} (ready : n.Ready w w') (fresh : w.Fresh)
    (blank : w.memory.emitted = #[]) (nonneg : 0 ≤ timeout) (name : ScriptName) (echo : Bool) :
    Underway timeout (Recording timeout (name.bench timeout echo))
      (World.testing name timeout echo
        { w' with listeners := w'.listeners ++ [.code .recorder] }) := by
  obtain ⟨table, links, scheduler, rest⟩ := ready.rest
  have now := ready.now
  have running := ready.running
  have records : w'.recorded = [] := by
    rw [rest]
    simp only [World.recorded, blank, List.map_nil]
  have clock : w'.now + timeout = timeout := by omega
  let begun : World Code Notebook := World.testing name timeout echo
    { w' with listeners := w'.listeners ++ [.code .recorder] }
  have kept : begun.recorded = [] := records
  have start : (name.bench timeout echo : Bench Code).hearAll begun.recorded =
      name.bench timeout echo := by
    rw [kept]
    rfl
  refine ⟨⟨?_, ?_, ?_, ?_, ?_, ?_, ?_, ?_, ?_, ?_, ?_, ?_⟩, ready.peopled, fun _ => ?_⟩
  · change w'.config = _
    rw [rest]
    exact fresh.standard
  · change w'.radioTrace = none
    rw [rest]
    exact fresh.silent
  · change w'.listeners ++ [.code .recorder] ++ [.host 0] = _
    rw [rest]
    simp only [fresh.unheard]
    rfl
  · exact Int.le_of_eq now.symm
  · exact Int.le_trans (Int.le_of_eq now) nonneg
  · rw [kept]
    exact .nil _
  · rw [start]
    rfl
  · rw [start]
    exact ready.mutations.trans fresh.unchanged
  · rw [start]
    exact running
  · intro stopped
    exact absurd (running.symm.trans stopped) (by decide)
  · rw [start]
    exact name.bench_sound timeout echo
  · rw [start]
    rfl
  · refine ready.queue nonneg rfl ?_
    change w'.scheduler.register (w'.now + timeout) _ = _
    rw [clock]

/-- A recorded test that was stopped by a line has ended as its script makes of the lines. -/
theorem Recording.recorded {start : Bench Code} (recording : Recording timeout start w)
    (stopped : w.scheduler.stopped = true) : Recorded timeout start none w := by
  have ended : start.outcome timeout w.recorded = start.hearAll w.recorded := by
    simp only [Bench.outcome, recording.stopped.symm.trans stopped, ↓reduceIte]
  refine ⟨recording.kept, recording.timely, ?_, ?_⟩
  · rw [ended]
    exact ⟨recording.host, recording.mutations, recording.now stopped⟩
  · rw [ended]
    exact recording.unbroken

/-- With enough fuel, the loop of a recorded test ends as its script makes of the recorded lines. -/
theorem recorded_loop_ends {start : Bench Code} (writable : Numeral.isWritable timeout = true)
    (underway : Underway timeout (Recording timeout start) w) :
    ∃ enough error w', Recorded timeout start error w' ∧ ∀ fuel, enough ≤ fuel →
      run (fire behaviour) none fuel w =
        match error with
        | none => .ok w'.now w'
        | some f => .error (.failure f) w' := by
  obtain ⟨enough, large⟩ : ∃ enough, Countdown.total timeout w.scheduler.pending < enough :=
    ⟨_, Nat.lt_succ_self _⟩
  have ends := test_yields (recording_listening writable start) underway enough
  have lasts (lasting : ∀ w', run (fire behaviour) none enough w ≠ .error .exhausted w') (fuel : Nat)
      (more : enough ≤ fuel) :
      run (fire behaviour) none fuel w = run (fire behaviour) none enough w := by
    obtain ⟨extra, rfl⟩ := Nat.exists_eq_add_of_le more
    exact run_more extra enough w lasting
  cases looped : run (fire behaviour) none enough w with
  | ok time w' =>
    rw [looped] at lasts ends
    obtain ⟨either, stopped, rfl⟩ := ends
    have recorded : Recorded timeout start none w' :=
      either.elim (fun underway => underway.held.recorded stopped) fun ended => ended
    exact ⟨enough, none, w', recorded, lasts (by simp)⟩
  | error i w' =>
    rw [looped] at lasts ends
    cases i with
    | exhausted => exact absurd ends.2 (Nat.not_le_of_lt large)
    | failure f =>
      have failed : Recorded timeout start (some f) w' := ends
      exact ⟨enough, some f, w', failed, lasts (by simp)⟩

/-- With enough fuel, a recorded test ends as its script makes of the recorded lines. -/
theorem recorded_test_ends (n : Network) (name : ScriptName) (echo : Bool) (fresh : w.Fresh)
    (blank : w.memory.emitted = #[]) (nonneg : 0 ≤ timeout)
    (writable : Numeral.isWritable timeout = true) :
    ∃ enough records, Kept timeout records ∧ ∀ fuel, enough ≤ fuel →
      (final (recordedTest n name timeout echo fuel) w).recorded = records ∧
      ((name.bench timeout echo).outcome timeout records).IsEnd
        (recordedTest n name timeout echo fuel w) := by
  obtain ⟨built, assembled, ready⟩ := n.assemble_apply fresh
  let heard : World Code Notebook := { built with listeners := built.listeners ++ [.code .recorder] }
  have unhosted : heard.hosts = #[] := by
    obtain ⟨_, _, _, rest⟩ := ready.rest
    change built.hosts = #[]
    rw [rest]
    exact fresh.unhosted
  have underway := ready.underway fresh blank nonneg name echo
  obtain ⟨enough, error, w', recorded, loops⟩ := recorded_loop_ends writable underway
  refine ⟨enough, w'.recorded, recorded.kept.later recorded.timely, ?_⟩
  intro fuel more
  have looped := loops fuel more
  have tested : recordedTest n name timeout echo fuel w =
      match error with
      | none => .ok 0 w'
      | some f => .error (.failure f) w' := by
    rw [recordedTest_apply assembled]
    cases error with
    | none =>
      exact runScript_ok (w := heard) nonneg unhosted looped recorded.describes.host
        (Bench.finished_outcome _ _ _)
    | some f => exact runScript_error (w := heard) nonneg unhosted looped
  cases error with
  | none =>
    refine ⟨congrArg World.recorded (final_ok tested), ?_⟩
    rw [tested]
    exact ⟨recorded.describes, recorded.error⟩
  | some f =>
    refine ⟨congrArg World.recorded (final_error tested), ?_⟩
    rw [tested]
    exact ⟨recorded.describes, recorded.error⟩

/-- A recorded test and the replay of its lines to a fresh copy of the script end alike, whatever the
network, the chances of the radio and the delays of the clients. -/
theorem replay_alike (n : Network) (name : ScriptName) (echo : Bool) (nonneg : 0 ≤ timeout)
    (writable : Numeral.isWritable timeout = true) (fresh : w.Fresh)
    (blank : w.memory.emitted = #[]) (fresh' : w'.Fresh) :
    ∃ enough, ∀ fuel, enough ≤ fuel → ∃ records,
      readLines (final (recordedTest n name timeout echo fuel) w).logFile = .ok records ∧
      Alike (recordedTest n name timeout echo fuel w)
        (replayedTest records name timeout echo fuel w') := by
  obtain ⟨enough, records, kept, ends⟩ := recorded_test_ends n name echo fresh blank nonneg writable
  refine ⟨max enough (records.length + 2), fun fuel more => ⟨records, ?_, ?_⟩⟩
  · obtain ⟨recorded, _⟩ := ends fuel (by omega)
    rw [World.logFile, recorded]
    exact readLines_write kept.legible
  · obtain ⟨_, ended⟩ := ends fuel (by omega)
    have replayed := replayed_test_ends behaviour name echo fresh' nonneg writable kept.sorted
      (fun r member => ⟨(kept.legible r member).time_nonneg, kept.past r member⟩)
      (show records.length + 2 ≤ fuel by omega)
    exact ended.alike replayed

/-- The weak-link network, its radio losing every other frame, is replayed. -/
theorem replay_alike_weakLink :
    (0 : Int) ≤ 650000 ∧ Numeral.isWritable 650000 = true ∧ ∃ enough, ∀ fuel, enough ≤ fuel →
      ∃ records, readLines (final (recordedTest (.weakLink 5) .linkFault 650000 false fuel)
          (World.ofChance Config.standard
            (.tape (fun i => if i % 2 = 0 then 0 else ⟨2 ^ 52, by decide⟩) 0)
            (.tape (fun i => i) 0) {} {})).logFile = .ok records ∧
        Alike (recordedTest (.weakLink 5) .linkFault 650000 false fuel
            (World.ofChance Config.standard
              (.tape (fun i => if i % 2 = 0 then 0 else ⟨2 ^ 52, by decide⟩) 0)
              (.tape (fun i => i) 0) {} {}))
          (replayedTest records .linkFault 650000 false fuel
            (World.ofChance Config.standard (.tape (fun _ => 0) 0) (.tape (fun _ => 0) 0) {} {})) := by
  have writable : Numeral.isWritable 650000 = true := by decide +kernel
  exact ⟨by decide, writable, replay_alike (.weakLink 5) .linkFault false (by decide) writable
    (World.fresh_ofChance _ _ _ _) rfl (World.fresh_ofChance _ _ _ _)⟩

end Fidelity

end MoteTrial
