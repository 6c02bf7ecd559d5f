import MoteTrial.LogFile.Record
import MoteTrial.Proofs.Host.Hearing

/-! # Playing recorded lines to a test

What a test makes of a list of recorded lines and of its deadline, computed from its host alone:
`Bench.outcome`. `Playing.ends` shows that a run whose pending events are such lines followed by the
deadline ends in just this way.
-/

namespace MoteTrial

open SimM Simulation

variable {κ μ : Type}

/-- What a test works on: its host, the changes made to links, and the time of the last line that it
took notice of. -/
structure Bench (κ : Type) where
  host : Host κ
  mutations : Array Mutation := #[]
  now : Int := 0

namespace Bench

/-- The changes made to links once an answer is given at a time. -/
def mutated (a : Answer κ) (now : Int) (mutations : Array Mutation) : Array Mutation :=
  match a.change? with
  | none => mutations
  | some (kind, first, second) => mutations.push ⟨now, kind, first, second⟩

/-- Hears a recorded line, unless the test has ended. -/
def hear (b : Bench κ) (r : LogFile.Record) : Bench κ :=
  if b.host.finished then b
  else
    let a := b.host.answer r.mote r.msg
    { host := a.settled, mutations := mutated a r.time b.mutations, now := r.time }

/-- Hears recorded lines in order. -/
def hearAll (b : Bench κ) (records : List LogFile.Record) : Bench κ := records.foldl hear b

/-- Reaches the deadline. -/
def expire (timeout : Int) (b : Bench κ) : Bench κ :=
  { b with host := b.host.expired, now := timeout }

/-- How a test ends that hears recorded lines up to its deadline. -/
def outcome (timeout : Int) (records : List LogFile.Record) (b : Bench κ) : Bench κ :=
  let heard := b.hearAll records
  if heard.host.finished then heard else heard.expire timeout

/-- A test with a built-in script that has not failed while it goes on. -/
structure Sound (timeout : Int) (b : Bench κ) : Prop where
  builtIn : b.host.BuiltIn timeout
  error : b.host.finished = false → b.host.error = none

/-- A world in which the test is as described. -/
structure Describes (b : Bench κ) (w : World κ μ) : Prop where
  host : w.hosts[0]? = some b.host
  mutations : w.medium.mutations = b.mutations
  now : w.now = b.now

/-- A run that ends as described: with the failure of the script, if it failed. -/
def IsEnd {α : Type} (b : Bench κ) : EStateM.Result Interrupt (World κ μ) α → Prop :=
  Yields (fun _ w => b.Describes w ∧ b.host.error = none)
    fun f w => b.Describes w ∧ b.host.error = some f

variable {b : Bench κ} {timeout : Int}

theorem hear_finished (finished : b.host.finished = true) (r : LogFile.Record) : b.hear r = b := by
  rw [hear, if_pos finished]

theorem hearAll_finished (finished : b.host.finished = true) (records : List LogFile.Record) :
    b.hearAll records = b := by
  induction records with
  | nil => rfl
  | cons r rest ih =>
    rw [hearAll, List.foldl_cons, hear_finished finished]
    exact ih

theorem hear_listening (listening : b.host.finished = false) (r : LogFile.Record) :
    b.hear r =
      { host := (b.host.answer r.mote r.msg).settled
        mutations := mutated (b.host.answer r.mote r.msg) r.time b.mutations
        now := r.time } := by
  rw [hear, if_neg (by simp [listening])]

theorem hearAll_append (b : Bench κ) (records : List LogFile.Record) (r : LogFile.Record) :
    b.hearAll (records ++ [r]) = (b.hearAll records).hear r := by
  rw [hearAll, List.foldl_append]
  rfl

theorem outcome_finished (finished : b.host.finished = true) (records : List LogFile.Record) :
    b.outcome timeout records = b := by
  simp only [outcome, hearAll_finished finished, finished, ↓reduceIte]

theorem outcome_cons (b : Bench κ) (r : LogFile.Record) (rest : List LogFile.Record) :
    b.outcome timeout (r :: rest) = (b.hear r).outcome timeout rest := rfl

theorem outcome_nil (listening : b.host.finished = false) :
    b.outcome timeout [] = b.expire timeout := by
  simp only [outcome, hearAll, List.foldl_nil, listening, Bool.false_eq_true, ↓reduceIte]

/-- A test that no line ends comes to its deadline. -/
theorem outcome_listening {records : List LogFile.Record}
    (listening : (b.hearAll records).host.finished = false) :
    b.outcome timeout records = (b.hearAll records).expire timeout := by
  simp only [outcome, listening, Bool.false_eq_true, ↓reduceIte]

/-- A test ends with the line that ends it, whatever comes later. -/
theorem outcome_ended {past : List LogFile.Record} {r : LogFile.Record}
    (finished : ((b.hearAll past).hear r).host.finished = true) (rest : List LogFile.Record) :
    b.outcome timeout (past ++ r :: rest) = (b.hearAll past).hear r := by
  have heard : b.hearAll (past ++ r :: rest) = (b.hearAll past).hear r := by
    rw [hearAll, List.foldl_append, List.foldl_cons]
    exact hearAll_finished finished rest
  simp only [outcome, heard, finished, ↓reduceIte]

/-- A test does not end before a time from which on it hears lines. -/
theorem le_outcome_now {time : Int} {records : List LogFile.Record} (begun : time ≤ b.now)
    (later : ∀ r ∈ records, time ≤ r.time) (due : time ≤ timeout) :
    time ≤ (b.outcome timeout records).now := by
  induction records generalizing b with
  | nil =>
    unfold outcome
    simp only
    split
    · exact begun
    · exact due
  | cons r rest ih =>
    rw [outcome_cons]
    refine ih ?_ fun s member => later s (List.mem_cons_of_mem _ member)
    unfold hear
    split
    · exact begun
    · exact later r (List.mem_cons_self ..)

/-- A test ends at its deadline at the latest. -/
theorem outcome_now_le {records : List LogFile.Record} (begun : b.now ≤ timeout)
    (early : ∀ r ∈ records, r.time ≤ timeout) : (b.outcome timeout records).now ≤ timeout := by
  induction records generalizing b with
  | nil =>
    unfold outcome
    simp only
    split
    · exact begun
    · exact Int.le_refl timeout
  | cons r rest ih =>
    rw [outcome_cons]
    refine ih ?_ fun s member => early s (List.mem_cons_of_mem _ member)
    unfold hear
    split
    · exact begun
    · exact early r (List.mem_cons_self ..)

theorem Sound.hear (sound : b.Sound timeout) (r : LogFile.Record) : (b.hear r).Sound timeout := by
  cases finished : b.host.finished with
  | true => rwa [hear_finished finished]
  | false =>
    obtain ⟨builtIn, settled⟩ := (Host.answer_from sound.builtIn r.mote r.msg).settled finished
    rw [hear_listening finished]
    refine ⟨builtIn, ?_⟩
    intro listening
    split at settled
    · exact settled.2.trans (sound.error finished)
    · simp only [settled.1, Bool.true_eq_false] at listening

theorem finished_outcome (timeout : Int) (records : List LogFile.Record) (b : Bench κ) :
    (b.outcome timeout records).host.finished = true := by
  unfold outcome
  simp only
  split
  · assumption
  · rfl

theorem error_expired (host : Host κ) : host.expired.error = host.error := by
  unfold Host.expired Host.acted Host.closed
  simp only
  split
  · rfl
  · split <;> rfl
  · rfl

end Bench

/-- A world in which a test goes on as described, its host being the only listener. -/
structure Playing (timeout : Int) (b : Bench κ) (w : World κ μ) : Prop where
  standard : w.config = Config.standard
  silent : w.radioTrace = none
  listeners : w.listeners = [.host 0]
  running : w.scheduler.stopped = false
  host : w.hosts[0]? = some b.host
  mutations : w.medium.mutations = b.mutations
  sound : b.Sound timeout
  listening : b.host.finished = false

section Playing

variable {act : Behaviour κ μ} {timeout : Int} {b : Bench κ} {w : World κ μ}

theorem mutations_medium (a : Answer κ) (now : Int) (m : Medium) :
    (a.medium now m).mutations = Bench.mutated a now m.mutations := by
  unfold Answer.medium Bench.mutated
  cases a.change? <;> rfl

/-- The only listener hears a line; the time can be written if its answer writes it. -/
theorem Playing.emit_apply (playing : Playing timeout b w) (act : Behaviour κ μ) (mote : Int)
    (msg : String) (dated : ¬ (b.host.answer mote msg).Quiet → Numeral.isWritable w.now = true) :
    ∃ w', emit (hear act) mote msg w =
        Answer.result ((b.host.answer mote msg).outcome.map fun _ => ()) w' ∧
      Heard 0 (b.host.answer mote msg) w w' := by
  obtain ⟨w', heard, changes⟩ := Host.hearLine_heard act playing.standard playing.host
    playing.sound.builtIn playing.listening mote msg dated
  refine ⟨w', ?_, changes⟩
  unfold emit
  rw [get_bind_apply, playing.listeners]
  exact (bind_unit_apply (Host.hearLine act 0 mote msg) w).trans heard

/-- The world after a line that the test goes on from. -/
theorem Playing.after {w' : World κ μ} {mote : Int} {msg : String} (playing : Playing timeout b w)
    (heard : Heard 0 (b.host.answer mote msg) w w')
    (more : (b.host.answer mote msg).outcome = .ok false) :
    Playing timeout (b.hear ⟨w.now, mote, msg⟩) w' := by
  have step := Bench.hear_listening playing.listening ⟨w.now, mote, msg⟩
  refine ⟨heard.config.trans playing.standard, heard.radioTrace.trans playing.silent,
    heard.listeners.trans playing.listeners, ?_, ?_, ?_, playing.sound.hear _, ?_⟩
  · rw [heard.scheduler_eq more, playing.running]
  · rw [step]
    exact heard.host
  · rw [step, heard.medium, mutations_medium, playing.mutations]
  · have settled := ((Host.answer_from playing.sound.builtIn mote msg).settled playing.listening).2
    rw [more] at settled
    rw [step]
    exact settled.1

theorem Playing.finishEvent (playing : Playing timeout b w) : Playing timeout b w.finishEvent :=
  ⟨playing.standard, playing.silent, playing.listeners, playing.running, playing.host,
    playing.mutations, playing.sound, playing.listening⟩

/-- Where a line has been heard the world is as the test has it. -/
theorem Heard.describes {w' : World κ μ} {mote : Int} {msg : String}
    (heard : Heard 0 (b.host.answer mote msg) w w') (listening : b.host.finished = false)
    (mutations : w.medium.mutations = b.mutations) : (b.hear ⟨w.now, mote, msg⟩).Describes w' := by
  rw [Bench.hear_listening listening]
  refine ⟨heard.host, ?_, ?_⟩
  · rw [heard.medium, mutations_medium, mutations]
  · rw [World.now, heard.scheduler]
    unfold Answer.scheduler
    split <;> rfl

/-- What comes of a line: the script fails, or it ends the test, or the test goes on. -/
theorem Playing.emits (playing : Playing timeout b w) (act : Behaviour κ μ)
    (writable : Numeral.isWritable w.now = true) (mote : Int) (msg : String) :
    let b' := b.hear ⟨w.now, mote, msg⟩
    match (b.host.answer mote msg).outcome with
    | .error f => ∃ w', emit (hear act) mote msg w = .error (.failure f) w' ∧ b'.Describes w' ∧
      b'.host.finished = true ∧ b'.host.error = some f
    | .ok true => ∃ w', emit (hear act) mote msg w = .ok () w' ∧ b'.Describes w' ∧
      b'.host.finished = true ∧ b'.host.error = none ∧ w'.scheduler.stopped = true
    | .ok false => ∃ w', emit (hear act) mote msg w = .ok () w' ∧ Playing timeout b' w' ∧
      w'.scheduler = w.scheduler := by
  obtain ⟨w', emitted, heard⟩ := playing.emit_apply act mote msg fun _ => writable
  have describes := heard.describes playing.listening playing.mutations
  have settled := ((Host.answer_from playing.sound.builtIn mote msg).settled playing.listening).2
  have step : (b.hear ⟨w.now, mote, msg⟩).host = (b.host.answer mote msg).settled := by
    rw [Bench.hear_listening playing.listening]
  have scheduler := heard.scheduler
  unfold Answer.scheduler at scheduler
  cases answered : (b.host.answer mote msg).outcome with
  | error f =>
    rw [answered] at emitted settled
    rw [← step] at settled
    exact ⟨w', emitted, describes, settled⟩
  | ok done =>
    rw [answered] at emitted settled scheduler
    cases done with
    | true =>
      rw [← step] at settled
      obtain ⟨finished, error⟩ := settled
      refine ⟨w', emitted, describes, finished, ?_, ?_⟩
      · exact error.trans (playing.sound.error playing.listening)
      · rw [scheduler]
        rfl
    | false => exact ⟨w', emitted, playing.after heard answered, scheduler⟩

/-- The deadline ends the test. -/
theorem Playing.expires (playing : Playing timeout b w) (act : Behaviour κ μ) (due : w.now = timeout)
    (writable : Numeral.isWritable timeout = true) :
    ∃ w', Host.expire act 0 timeout .builtIn w = .ok () w' ∧ (b.expire timeout).Describes w' ∧
      w'.scheduler = w.scheduler.stop ∧ w'.motes = w.motes ∧ w'.medium = w.medium ∧
      w'.jitter = w.jitter := by
  have shown : Numeral.isWritable w.now = true := by
    rw [due]
    exact writable
  obtain ⟨o, expired⟩ := Host.expire_apply act playing.standard shown playing.host playing.sound.builtIn
    playing.listening writable
  refine ⟨_, expired, ⟨?_, ?_, ?_⟩, rfl, rfl, rfl, rfl⟩
  · exact World.hosts_setHost playing.host _
  · exact playing.mutations
  · exact due

theorem Playing.taking {a : Appointment (Event κ)} {s : Scheduler (Event κ)}
    (playing : Playing timeout b w) (takes : w.scheduler.Takes a s) :
    Playing timeout b { w with scheduler := s } :=
  ⟨playing.standard, playing.silent, playing.listeners, takes.stopped.trans playing.running,
    playing.host, playing.mutations, playing.sound, playing.listening⟩

/-- A run that comes to the deadline ends with it. -/
theorem Playing.ends_expired (playing : Playing timeout b w) (act : Behaviour κ μ)
    (writable : Numeral.isWritable timeout = true) {deadline : Appointment (Event κ)}
    {rest : List (Appointment (Event κ))} (shape : w.scheduler.pending = deadline :: rest)
    (event : deadline.event = .expire 0 timeout .builtIn) (due : deadline.due = timeout) (fuel : Nat) :
    (b.expire timeout).IsEnd (run (fire act) none (fuel + 2) w) := by
  obtain ⟨s, next⟩ := Scheduler.next?_of_pending shape
  have takes := Scheduler.takes_of_next? next
  obtain ⟨w', expired, describes, scheduler, _⟩ :=
    (playing.taking takes).expires act (takes.now.trans due) writable
  have fired : fire act deadline.event { w with scheduler := s } = .ok () w' := by
    rw [event]
    exact expired
  have stopped : w'.finishEvent.scheduler.stopped = true := by
    change w'.scheduler.stopped = true
    rw [scheduler]
    rfl
  rw [run_fires playing.running (Scheduler.nextDue?_of_takes takes) (by simp),
    bind_ok (step_ok playing.running next fired), run_stopped stopped]
  refine ⟨⟨describes.host, describes.mutations, describes.now⟩, ?_⟩
  exact (Bench.error_expired b.host).trans (playing.sound.error playing.listening)

/-- A run that comes to a line ends with it, or goes on from the world in which it has been heard. -/
theorem Playing.comes_to_line (playing : Playing timeout b w) (act : Behaviour κ μ)
    {r : LogFile.Record} (writable : Numeral.isWritable r.time = true) {a : Appointment (Event κ)}
    {rest : List (Appointment (Event κ))} (shape : w.scheduler.pending = a :: rest)
    (said : a.event = .line r.mote r.msg) (time : a.due = r.time) (fuel : Nat) :
    ((b.hear r).host.finished = true ∧ (b.hear r).IsEnd (run (fire act) none (fuel + 2) w)) ∨
      ∃ w', Playing timeout (b.hear r) w' ∧ w'.scheduler.pending = rest ∧
        run (fire act) none (fuel + 2) w = run (fire act) none (fuel + 1) w' := by
  obtain ⟨s, next⟩ := Scheduler.next?_of_pending shape
  have takes := Scheduler.takes_of_next? next
  have now : ({ w with scheduler := s } : World κ μ).now = r.time := takes.now.trans time
  have fired : fire act a.event { w with scheduler := s } =
      emit (hear act) r.mote r.msg { w with scheduler := s } := by
    rw [said]
    rfl
  have came := (playing.taking takes).emits act (now ▸ writable) r.mote r.msg
  rw [now] at came
  rw [run_fires playing.running (Scheduler.nextDue?_of_takes takes) (by simp)]
  cases answered : (b.host.answer r.mote r.msg).outcome with
  | error f =>
    rw [answered] at came
    obtain ⟨w', emitted, describes, finished, error⟩ := came
    rw [bind_error (step_error playing.running next (fired.trans emitted))]
    exact .inl ⟨finished, describes, error⟩
  | ok done =>
    rw [answered] at came
    cases done with
    | true =>
      obtain ⟨w', emitted, describes, finished, error, stopped⟩ := came
      have ended : w'.finishEvent.scheduler.stopped = true := stopped
      rw [bind_ok (step_ok playing.running next (fired.trans emitted)), run_stopped ended]
      exact .inl ⟨finished, ⟨describes.host, describes.mutations, describes.now⟩, error⟩
    | false =>
      obtain ⟨w', emitted, further, scheduler⟩ := came
      rw [bind_ok (step_ok playing.running next (fired.trans emitted))]
      refine .inr ⟨w'.finishEvent, further.finishEvent, ?_, rfl⟩
      change w'.scheduler.pending = rest
      rw [scheduler]
      exact (List.cons.inj (takes.pending.symm.trans shape)).2

/-- A run on recorded lines and the deadline after them ends as the test makes of them, if the time at
which it ends can be written. -/
theorem Playing.ends (act : Behaviour κ μ) {records : List LogFile.Record}
    {lines rest : List (Appointment (Event κ))} {deadline : Appointment (Event κ)}
    (playing : Playing timeout b w)
    (writable : Numeral.isWritable (b.outcome timeout records).now = true)
    (shape : w.scheduler.pending = lines ++ deadline :: rest)
    (recorded : lines.map (fun a => (a.due, a.event)) =
      records.map fun r => (r.time, .line r.mote r.msg))
    (sorted : records.Pairwise fun r s => r.time ≤ s.time)
    (within : ∀ r ∈ records, 0 ≤ r.time ∧ r.time ≤ timeout)
    (event : deadline.event = .expire 0 timeout .builtIn) (due : deadline.due = timeout)
    {fuel : Nat} (enough : records.length + 2 ≤ fuel) :
    (b.outcome timeout records).IsEnd (run (fire act) none fuel w) := by
  induction records generalizing lines w b fuel with
  | nil =>
    obtain ⟨fuel, rfl⟩ : ∃ more, fuel = more + 2 := ⟨fuel - 2, by omega⟩
    obtain rfl := List.map_eq_nil_iff.mp recorded
    rw [Bench.outcome_nil playing.listening] at writable ⊢
    exact playing.ends_expired act writable shape event due fuel
  | cons r records ih =>
    have longer : records.length + 3 ≤ fuel := enough
    obtain ⟨fuel, rfl⟩ : ∃ more, fuel = more + 2 := ⟨fuel - 2, by omega⟩
    obtain ⟨a, lines, rfl, first, others⟩ := List.map_eq_cons_iff.mp recorded
    obtain ⟨time, said⟩ := Prod.mk.inj first
    obtain ⟨later, ordered⟩ := List.pairwise_cons.mp sorted
    obtain ⟨nonneg, early⟩ := within r (List.mem_cons_self ..)
    rw [Bench.outcome_cons] at writable ⊢
    have forward : r.time ≤ ((b.hear r).outcome timeout records).now := by
      refine Bench.le_outcome_now (Int.le_of_eq ?_) later early
      rw [Bench.hear_listening playing.listening]
    have soon := isWritable_of_le nonneg forward writable
    rcases playing.comes_to_line act soon shape said time fuel with
      ⟨finished, ended⟩ | ⟨w', further, pending, goes⟩
    · rw [Bench.outcome_finished finished]
      exact ended
    · rw [goes]
      refine ih further writable pending others ordered ?_ (by omega)
      intro r member
      exact within r (List.mem_cons_of_mem _ member)

end Playing

end MoteTrial
