import MoteTrial.Experiment.Run
import MoteTrial.Proofs.Network.Run
import MoteTrial.Proofs.Replay.ReplayedTest
import MoteTrial.Proofs.Text.LogText

/-! # Tests of recorded runs

A recorder that listens before the host of a test keeps every line of the run, with its time and its
mote. While a network runs, the host is just where the recorded lines take it, `Recording`, and so the
test ends as the script makes of them, `recorded_test_ends`.
-/

namespace MoteTrial

open SimM Simulation Scenario LogFile Experiment

/-- The lines that a recorder has kept. -/
def World.recorded (w : World Code Notebook) : List Record :=
  w.memory.emitted.toList.map fun (time, mote, msg) => ⟨time, mote, msg⟩

/-- Lines that were kept up to a time, in the order of their times. -/
structure Kept (now : Int) (records : List Record) : Prop where
  legible : ∀ r ∈ records, r.Legible
  past : ∀ r ∈ records, r.time ≤ now
  sorted : records.Pairwise fun r s => r.time ≤ s.time

namespace Kept

variable {now : Int} {records : List Record}

theorem nil (now : Int) : Kept now [] := ⟨nofun, nofun, .nil⟩

theorem later (kept : Kept now records) {now' : Int} (after : now ≤ now') : Kept now' records :=
  ⟨kept.legible, fun r member => Int.le_trans (kept.past r member) after, kept.sorted⟩

theorem append (kept : Kept now records) {r : Record} (legible : r.Legible) (time : r.time = now) :
    Kept now (records ++ [r]) where
  legible := by
    intro s member
    rcases List.mem_append.mp member with member | member
    · exact kept.legible s member
    · rw [List.mem_singleton.mp member]
      exact legible
  past := by
    intro s member
    rcases List.mem_append.mp member with member | member
    · exact kept.past s member
    · rw [List.mem_singleton.mp member]
      exact Int.le_of_eq time
  sorted := by
    refine List.pairwise_append.mpr ⟨kept.sorted, List.pairwise_singleton _ _, ?_⟩
    intro s member t last
    rw [List.mem_singleton.mp last, time]
    exact kept.past s member

end Kept

/-- The lines of the firmware hold no line end. -/
theorem Spoken.unbroken {id : Int} {msg : String} (spoken : Spoken id msg) :
    '\n' ∉ msg.toList ∧ '\r' ∉ msg.toList := by
  have digits (n : Int) : '\n' ∉ (Numeral.decimal n).toList ∧ '\r' ∉ (Numeral.decimal n).toList :=
    ⟨fun member => (Numeral.mem_decimal member).elim (by decide) (by decide),
      fun member => (Numeral.mem_decimal member).elim (by decide) (by decide)⟩
  cases spoken with
  | started =>
    simp only [String.toList_append, List.mem_append, not_or]
    exact ⟨⟨⟨(digits id).1, by decide⟩, by decide⟩, ⟨(digits id).2, by decide⟩, by decide⟩
  | deteriorate => decide
  | improve => decide
  | done => decide
  | received counter =>
    simp only [String.toList_append, List.mem_append, not_or]
    exact ⟨⟨by decide, (digits counter).1⟩, by decide, (digits counter).2⟩

/-- A test in progress that a recorder listens to before its host. -/
structure Recording (timeout : Int) (start : Bench Code) (w : World Code Notebook) : Prop where
  standard : w.config = Config.standard
  silent : w.radioTrace = none
  listeners : w.listeners = [.code .recorder, .host 0]
  begun : 0 ≤ w.now
  timely : w.now ≤ timeout
  kept : Kept w.now w.recorded
  host : w.hosts[0]? = some (start.hearAll w.recorded).host
  mutations : w.medium.mutations = (start.hearAll w.recorded).mutations
  stopped : w.scheduler.stopped = (start.hearAll w.recorded).host.finished
  now : w.scheduler.stopped = true → w.now = (start.hearAll w.recorded).now
  sound : (start.hearAll w.recorded).Sound timeout
  unbroken : (start.hearAll w.recorded).host.error = none

/-- A test that has ended as its script makes of the recorded lines, with the failure of the script if
it failed. -/
structure Recorded (timeout : Int) (start : Bench Code) (error : Option Failure)
    (w : World Code Notebook) : Prop where
  kept : Kept w.now w.recorded
  timely : w.now ≤ timeout
  describes : (start.outcome timeout w.recorded).Describes w
  error : (start.outcome timeout w.recorded).host.error = error

section Record

variable {timeout : Int} {start : Bench Code} {w : World Code Notebook}

/-- The world once a recorder has kept a line. -/
def World.keep (mote : Int) (msg : String) (w : World Code Notebook) : World Code Notebook :=
  { w with memory := { w.memory with emitted := w.memory.emitted.push (w.now, mote, msg) } }

theorem World.recorded_keep (mote : Int) (msg : String) (w : World Code Notebook) :
    (w.keep mote msg).recorded = w.recorded ++ [⟨w.now, mote, msg⟩] := by
  simp only [recorded, keep, Array.toList_push, List.map_append, List.map_cons, List.map_nil]

theorem recorder_bind_apply (mote : Int) (msg : String) (f : SimM Code Notebook Unit)
    (w : World Code Notebook) :
    (hear behaviour (.code .recorder) mote msg >>= fun _ => f) w = f (w.keep mote msg) := rfl

theorem tell_recorded (mote : Int) (msg : String) (w : World Code Notebook) :
    Simulation.tell (hear behaviour) mote msg [.code .recorder, .host 0] w =
      Host.hearLine behaviour 0 mote msg (w.keep mote msg) := by
  unfold Simulation.tell
  rw [recorder_bind_apply]
  exact bind_unit_apply (Host.hearLine behaviour 0 mote msg) (w.keep mote msg)

theorem Recording.writable (recording : Recording timeout start w)
    (deadline : Numeral.isWritable timeout = true) : Numeral.isWritable w.now = true :=
  isWritable_of_le recording.begun recording.timely deadline

/-- The recorder keeps a line, and then the host hears it. -/
theorem Recording.emit_eq (recording : Recording timeout start w) (id : Int) (msg : String) :
    emit (hear behaviour) id msg w = Host.hearLine behaviour 0 id msg (w.keep id msg) := by
  unfold emit
  rw [get_bind_apply, recording.listeners, tell_recorded]

/-- Once the script is done only the recorder takes notice of a line. -/
theorem Recording.ignores (recording : Recording timeout start w) {id : Int} {msg : String}
    (kept : Kept w.now (w.recorded ++ [⟨w.now, id, msg⟩]))
    (finished : (start.hearAll w.recorded).host.finished = true) :
    Recording timeout start (w.keep id msg) := by
  have bench : start.hearAll (w.keep id msg).recorded = start.hearAll w.recorded := by
    rw [World.recorded_keep, Bench.hearAll_append, Bench.hear_finished finished]
  refine ⟨recording.standard, recording.silent, recording.listeners, recording.begun,
    recording.timely, ?_, ?_, ?_, ?_, ?_, ?_, ?_⟩
  · rw [World.recorded_keep]
    exact kept
  · rw [bench]
    exact recording.host
  · rw [bench]
    exact recording.mutations
  · rw [bench]
    exact recording.stopped
  · rw [bench]
    exact recording.now
  · rw [bench]
    exact recording.sound
  · rw [bench]
    exact recording.unbroken

/-- What a line has changed that the recorder has kept and the host has heard. -/
structure HeardRecorded (start : Bench Code) (id : Int) (msg : String) (w w' : World Code Notebook) :
    Prop where
  heard : Heard 0 ((start.hearAll w.recorded).host.answer id msg) (w.keep id msg) w'
  records : w'.recorded = w.recorded ++ [⟨w.now, id, msg⟩]
  bench : start.hearAll w'.recorded = (start.hearAll w.recorded).hear ⟨w.now, id, msg⟩
  describes : (start.hearAll w'.recorded).Describes w'
  now : w'.now = w.now

theorem Recording.hears (recording : Recording timeout start w)
    (writable : Numeral.isWritable w.now = true)
    (listening : (start.hearAll w.recorded).host.finished = false) (id : Int) (msg : String) :
    ∃ w', Host.hearLine behaviour 0 id msg (w.keep id msg) =
        Answer.result (((start.hearAll w.recorded).host.answer id msg).outcome.map fun _ => ()) w' ∧
      HeardRecorded start id msg w w' := by
  obtain ⟨w', heard, changes⟩ := Host.hearLine_heard behaviour (w := w.keep id msg)
    recording.standard recording.host recording.sound.builtIn listening id msg fun _ => writable
  have records : w'.recorded = w.recorded ++ [⟨w.now, id, msg⟩] := by
    rw [World.recorded, changes.memory]
    exact World.recorded_keep id msg w
  have bench : start.hearAll w'.recorded = (start.hearAll w.recorded).hear ⟨w.now, id, msg⟩ := by
    rw [records]
    exact Bench.hearAll_append ..
  have describes : ((start.hearAll w.recorded).hear ⟨w.now, id, msg⟩).Describes w' :=
    changes.describes listening recording.mutations
  refine ⟨w', heard, changes, records, bench, bench ▸ describes, ?_⟩
  rw [describes.now, Bench.hear_listening listening]

/-- A line that the script fails on ends the test. -/
theorem Recording.fails (recording : Recording timeout start w) {id : Int} {msg : String}
    (kept : Kept w.now (w.recorded ++ [⟨w.now, id, msg⟩])) {w' : World Code Notebook}
    (after : HeardRecorded start id msg w w')
    (listening : (start.hearAll w.recorded).host.finished = false) {f : Failure}
    (failed : ((start.hearAll w.recorded).host.answer id msg).outcome = .error f) :
    Recorded timeout start (some f) w' := by
  have settled := ((Host.answer_from recording.sound.builtIn id msg).settled listening).2
  have host : (start.hearAll w'.recorded).host =
      ((start.hearAll w.recorded).host.answer id msg).settled := by
    rw [after.bench, Bench.hear_listening listening]
  rw [failed, ← host] at settled
  obtain ⟨finished, error⟩ := settled
  have ended : start.outcome timeout w'.recorded = start.hearAll w'.recorded := by
    simp only [Bench.outcome, finished, ↓reduceIte]
  refine ⟨?_, ?_, ?_, ?_⟩
  · rw [after.now, after.records]
    exact kept
  · rw [after.now]
    exact recording.timely
  · rw [ended]
    exact after.describes
  · rw [ended]
    exact error

/-- After any other line the recorder and the host are as before it. -/
theorem Recording.goes_on (recording : Recording timeout start w) {id : Int} {msg : String}
    (kept : Kept w.now (w.recorded ++ [⟨w.now, id, msg⟩])) {w' : World Code Notebook}
    (after : HeardRecorded start id msg w w')
    (listening : (start.hearAll w.recorded).host.finished = false) {done : Bool}
    (answered : ((start.hearAll w.recorded).host.answer id msg).outcome = .ok done) :
    Recording timeout start w' ∧ Beside w w' := by
  have settled := ((Host.answer_from recording.sound.builtIn id msg).settled listening).2
  have sound := recording.sound.hear ⟨w.now, id, msg⟩
  have host : (start.hearAll w'.recorded).host =
      ((start.hearAll w.recorded).host.answer id msg).settled := by
    rw [after.bench, Bench.hear_listening listening]
  rw [answered, ← host] at settled
  obtain ⟨finished, error⟩ := settled
  have changes := after.heard
  have scheduler := changes.scheduler
  simp only [Answer.scheduler, answered] at scheduler
  have pending : w'.scheduler.pending = w.scheduler.pending := by
    rw [scheduler]
    cases done <;> rfl
  refine ⟨⟨changes.config.trans recording.standard, changes.radioTrace.trans recording.silent,
    changes.listeners.trans recording.listeners, ?_, ?_, ?_, after.describes.host,
    after.describes.mutations, ?_, fun _ => after.describes.now, after.bench ▸ sound, ?_⟩,
    changes.motes, pending, after.now⟩
  · rw [after.now]
    exact recording.begun
  · rw [after.now]
    exact recording.timely
  · rw [after.now, after.records]
    exact kept
  · rw [finished, scheduler]
    cases done with
    | true => rfl
    | false => exact recording.stopped.trans listening
  · exact error.trans recording.unbroken

/-- A mote logs a line. -/
theorem Recording.emits (recording : Recording timeout start w)
    (deadline : Numeral.isWritable timeout = true) {id : Int} {msg : String} (spoken : Spoken id msg)
    (nonneg : 0 ≤ id) (shown : Numeral.isWritable id = true) :
    Yields (fun _ w' => Recording timeout start w' ∧ Beside w w')
      (fun f w' => Recorded timeout start (some f) w') (emit (hear behaviour) id msg w) := by
  have writable := recording.writable deadline
  have kept : Kept w.now (w.recorded ++ [⟨w.now, id, msg⟩]) :=
    recording.kept.append ⟨recording.begun, writable, nonneg, shown, spoken.unbroken⟩ rfl
  rw [recording.emit_eq]
  cases finished : (start.hearAll w.recorded).host.finished with
  | true =>
    rw [Host.hearLine_finished (w := w.keep id msg) recording.host finished]
    exact ⟨recording.ignores kept finished, rfl, rfl, rfl⟩
  | false =>
    obtain ⟨w', heard, after⟩ := recording.hears writable finished id msg
    rw [heard]
    cases outcome : ((start.hearAll w.recorded).host.answer id msg).outcome with
    | error f => exact recording.fails kept after finished outcome
    | ok done => exact recording.goes_on kept after finished outcome

/-- The deadline of a recorded test expires. -/
theorem Recording.expires (recording : Recording timeout start w)
    (deadline : Numeral.isWritable timeout = true) (running : w.scheduler.stopped = false)
    (due : w.now = timeout) :
    Yields (fun _ w' => Recorded timeout start none w'.finishEvent ∧ w'.scheduler.stopped = true ∧
        w'.scheduler.pending = w.scheduler.pending)
      (fun f w' => Recorded timeout start (some f) w')
      (Host.expire behaviour 0 timeout .builtIn w) := by
  have listening : (start.hearAll w.recorded).host.finished = false :=
    recording.stopped.symm.trans running
  obtain ⟨o, expired⟩ := Host.expire_apply behaviour recording.standard (recording.writable deadline)
    recording.host recording.sound.builtIn listening deadline
  have ended : start.outcome timeout w.recorded = (start.hearAll w.recorded).expire timeout := by
    simp only [Bench.outcome, listening, Bool.false_eq_true, ↓reduceIte]
  rw [expired]
  refine ⟨⟨recording.kept, recording.timely, ?_, ?_⟩, rfl, rfl⟩
  · change (start.outcome timeout w.recorded).Describes _
    rw [ended]
    exact ⟨World.hosts_setHost recording.host _, recording.mutations, due⟩
  · change (start.outcome timeout w.recorded).host.error = none
    rw [ended]
    exact (Bench.error_expired _).trans recording.unbroken

/-- The recorder and the host of a test keep up with a network. -/
theorem recording_listening (deadline : Numeral.isWritable timeout = true) (start : Bench Code) :
    Listening behaviour timeout (Recording timeout start) (Recorded timeout start none)
      (fun f w => Recorded timeout start (some f) w) where
  standard recording := recording.standard
  clock recording := recording.writable deadline
  moves recording running takes onward timely := by
    have ongoing := takes.stopped.trans running
    have clock := takes.now
    refine ⟨recording.standard, recording.silent, recording.listeners, ?_, ?_, ?_, recording.host,
      recording.mutations, ?_, ?_, recording.sound, recording.unbroken⟩
    · rw [World.now, clock]
      exact Int.le_trans recording.begun onward
    · rw [World.now, clock]
      exact timely
    · exact recording.kept.later (Int.le_trans onward (Int.le_of_eq clock.symm))
    · exact ongoing.trans (running.symm.trans recording.stopped)
    · intro stopped
      exact absurd stopped (by simp [ongoing])
  aside recording motes draws jitter scheduler clock stopped := by
    refine ⟨recording.standard, recording.silent, recording.listeners, ?_, ?_, ?_, recording.host,
      recording.mutations, stopped.trans recording.stopped, ?_, recording.sound, recording.unbroken⟩
    · rw [World.now, clock]
      exact recording.begun
    · rw [World.now, clock]
      exact recording.timely
    · rw [World.now, clock]
      exact recording.kept
    · intro ended
      rw [World.now, clock]
      exact recording.now (stopped.symm.trans ended)
  emits recording spoken nonneg shown := recording.emits deadline spoken nonneg shown
  expires recording running due := recording.expires deadline running due

end Record

end MoteTrial
