import MoteTrial.Proofs.Deadline.Run

/-! # From the boots of all motes to the end of a test

A simulation that has been put together at time zero, of whatever motes, links and chance, boots all its
motes and is tested by a built-in script. The run comes to its end after a number of events that the
motes and the deadline bound: the test is cleared in time, or times out at its deadline, or fails by
then.
-/

namespace MoteTrial.Deadline

open SimM Simulation Session Scenario

variable {κ μ : Type}

section Start

variable {c : Config} {name : ScriptName} {deadline : Int} {trace : Option Nat} {log : TestLog}
  {w : World κ μ}

/-- Scheduling boots adds events that are not past, one for each mote at most, and all of them boots. -/
theorem pending_booting {interval : Int} (forward : 0 ≤ interval) {entries : List (Int × Mote)}
    (nonneg : ∀ entry ∈ entries, 0 ≤ entry.1) (w : World κ μ) :
    (w.booting interval entries).scheduler.pending.length ≤
        w.scheduler.pending.length + entries.length ∧
      ∀ a ∈ (w.booting interval entries).scheduler.pending,
        a ∈ w.scheduler.pending ∨ (∃ id, a.event = .boot id) ∧ w.now ≤ a.due := by
  induction entries generalizing w with
  | nil => exact ⟨Nat.le_refl _, fun a pending => .inl pending⟩
  | cons head rest ih =>
    obtain ⟨id, mote⟩ := head
    have later := ih fun entry member => nonneg entry (List.mem_cons_of_mem _ member)
    unfold World.booting
    cases mote.firmware?.isSome with
    | false =>
      obtain ⟨count, boots⟩ := later w
      simp only [Bool.false_eq_true, ↓reduceIte, List.length_cons]
      exact ⟨by omega, boots⟩
    | true =>
      have wait : 0 ≤ interval * id :=
        Int.mul_nonneg forward (nonneg (id, mote) List.mem_cons_self)
      have due : w.now ≤ w.now + interval * id := by omega
      obtain ⟨count, boots⟩ := later (w.register (w.now + interval * id) (.boot id))
      have grown : (w.register (w.now + interval * id) (.boot id)).scheduler.pending.length =
          w.scheduler.pending.length + 1 :=
        (Scheduler.insert_perm _ _).length_eq
      simp only [↓reduceIte, List.length_cons]
      refine ⟨by omega, fun a pending => ?_⟩
      rcases boots a pending with earlier | later
      · rcases Scheduler.mem_insert.mp earlier with rfl | earlier
        · exact .inr ⟨⟨id, rfl⟩, due⟩
        · exact .inl earlier
      · exact .inr later

theorem plays_attached (name : ScriptName) (deadline : Int) (trace : Option Nat) :
    Plays name ((name.attached deadline : Script κ).recordIn trace) := by
  cases name with
  | linkFault => rfl
  | reception => rfl

/-- A test starts in a world in which nothing but boots is pending. -/
theorem start_waiting (act : Behaviour κ μ) (nonneg : 0 ≤ deadline) (zero : w.now = 0)
    (running : w.scheduler.stopped = false) (listeners : w.listeners = [.host 0])
    (boots : ∀ a ∈ w.scheduler.pending, (∃ id, a.event = .boot id) ∧ 0 ≤ a.due)
    (present : w.hosts[0]? =
      some { script := (name.script c (some deadline)).recordIn trace, log })
    (undecided : log.verdict = none) (unreasoned : log.reason = "") :
    ∃ e w', Host.start act 0 w = .ok () w' ∧ Waiting w.config deadline e name w' ∧
      (∀ a ∈ w'.scheduler.pending, 0 ≤ a.due) ∧
      w'.scheduler.pending.length = w.scheduler.pending.length + 1 := by
  let host : Host κ :=
    { script := (name.attached deadline).recordIn trace, log, deadlineSet := true }
  have started : Host.start act 0 w = .ok () ((w.setHost 0 host).register (w.now + deadline)
      (.expire 0 deadline .builtIn)) := start_apply nonneg present
  rw [zero, Int.zero_add] at started
  let e : Appointment (Event κ) := ⟨deadline, w.scheduler.issued, .expire 0 deadline .builtIn⟩
  let w' := (w.setHost 0 host).register deadline (.expire 0 deadline .builtIn)
  have pending : w'.scheduler.pending = Scheduler.insert e w.scheduler.pending := rfl
  have due : ∀ a ∈ w'.scheduler.pending, 0 ≤ a.due := by
    intro a member
    rw [pending] at member
    rcases Scheduler.mem_insert.mp member with rfl | earlier
    · exact nonneg
    · exact (boots a earlier).2
  refine ⟨e, w', started, ⟨?_, ?_⟩, due, ?_⟩
  · refine ⟨rfl, rfl, rfl, listeners, host, World.hosts_setHost present host, ?_⟩
    exact ⟨plays_attached name deadline trace, rfl, rfl, undecided, unreasoned, running⟩
  · refine ⟨rfl, rfl, ?_, ?_⟩
    · rw [pending]
      exact Scheduler.mem_insert.mpr (.inl rfl)
    · intro a member other
      rw [pending] at member
      rcases Scheduler.mem_insert.mp member with same | earlier
      · exact absurd same other
      · exact .inl (boots a earlier).1
  · rw [pending]
    exact (Scheduler.insert_perm _ _).length_eq

end Start

/-- A simulation put together at time zero, of motes whose identifiers are not negative. -/
structure Assembled (w : World κ μ) : Prop where
  timed : Timed w.config
  idle : w.scheduler = {}
  unheard : w.listeners = []
  unhosted : w.hosts = #[]
  nonneg : ∀ entry ∈ w.motes.entries, 0 ≤ entry.1

/-- A line that says so has ended a test before its deadline, and the test is passed. -/
structure Succeeds (c : Config) (name : ScriptName) (deadline : Int) (host : Host κ) (w : World κ μ) :
    Prop where
  linkFault : name = .linkFault
  passed : host.log.verdict = some .passed
  line : ∃ msg, host.msg = some msg ∧ Message.classify msg = .done
  untimed : host.timedOut = false
  timely : w.now ≤ deadline
  before : Text.contains c.keywordStarted Config.standard.keywordDone = false → w.now < deadline

/-- How a test comes to its end. -/
def Concludes (c : Config) (name : ScriptName) (deadline : Int) :
    EStateM.Result Interrupt (World κ μ) Nat → Prop
  | .ok h w => ∃ host, w.hosts[h]? = some host ∧ host.finished = true ∧
      host.log.reason ≠ "simulation ended before the script finished" ∧
      (Succeeds c name deadline host w ∨ host.timedOut = true ∧ w.now = deadline)
  | .error (.failure _) w => w.now ≤ deadline ∧ ∃ host, w.hosts[0]? = some host ∧
      host.log.reason ≠ "simulation ended before the script finished"
  | .error .exhausted _ => False

section Test

variable {c : Config} {name : ScriptName} {deadline : Int} {w : World κ μ}

theorem Over.concludes (settled : Over c deadline name w) : Concludes c name deadline (.ok 0 w) := by
  obtain ⟨host, present, ended | ⟨timedOut, now⟩⟩ := settled.scene.host
  · have cleared := ended.toCleared
    have fair : Fair host true := cleared.fair
    refine ⟨host, present, ended.finished, fair, .inl ?_⟩
    refine ⟨cleared.linkFault, cleared.passed, cleared.line, cleared.untimed, settled.timely, ?_⟩
    intro unsaid
    rcases cleared.early with early | said
    · exact early
    · cases unsaid.symm.trans said
  · exact ⟨host, present, timedOut.finished, timedOut.fair, .inr ⟨timedOut.timedOut, now⟩⟩

/-- The test of a host that starts when nothing but boots is pending. -/
theorem run_over (act : Behaviour κ μ) (timed : Timed w.config) (nonneg : 0 ≤ deadline)
    (zero : w.now = 0) (running : w.scheduler.stopped = false) (listeners : w.listeners = [.host 0])
    (boots : ∀ a ∈ w.scheduler.pending, (∃ id, a.event = .boot id) ∧ 0 ≤ a.due) {trace : Option Nat}
    {log : TestLog} (present : w.hosts[0]? =
      some { script := (name.script c (some deadline)).recordIn trace, log })
    (undecided : log.verdict = none) (unreasoned : log.reason = "") {fuel : Nat}
    (enough : (w.scheduler.pending.length + 1) * (deadline.toNat / 10000 + 1) < fuel) :
    Yields (fun _ => Over w.config deadline name) (fun _ => Failed deadline)
      (Host.run act fuel 0 w) := by
  obtain ⟨e, w', started, waiting, future, count⟩ :=
    start_waiting act nonneg zero running listeners boots present undecided unreasoned
  have weight : Countdown.total deadline w'.scheduler.pending ≤
      w'.scheduler.pending.length * (deadline.toNat / 10000 + 1) := total_le future
  rw [count] at weight
  unfold Host.run
  rw [bind_ok started]
  refine (waiting.run act timed (Nat.lt_of_le_of_lt weight enough)).bind fun _ w settled => ?_
  have finished : ∃ host, w.hosts[0]? = some host ∧ host.finished = true := by
    obtain ⟨host, present, ended | ⟨timedOut, _⟩⟩ := settled.scene.host
    · exact ⟨host, present, ended.finished⟩
    · exact ⟨host, present, timedOut.finished⟩
  obtain ⟨host, present, finished⟩ := finished
  rw [get_bind_apply]
  simp only [present, finished, Bool.not_true, Bool.false_eq_true, ↓reduceIte]
  exact settled

theorem Over.seenBy (settled : Over c deadline name w) (o : Observer) :
    Over c deadline name (w.seenBy o) := ⟨settled.scene.seenBy o, settled.timely⟩

theorem closeTrace_apply (h : Nat) (trace : Option Nat) (w : World κ μ) :
    ∃ o, closeTrace h trace w = .ok () (w.seenBy o) := by
  cases trace with
  | none => exact ⟨w.observer, rfl⟩
  | some id => exact ⟨_, rfl⟩

/-- The world in which a script is attached to the only host. -/
def attaching (script : Script κ) (trace : Option Nat) (echo : Bool) (w : World κ μ) : World κ μ :=
  { w with
    radioTrace := if trace.isSome then trace else w.radioTrace
    hosts := #[{ script := script.recordIn trace, log := { echo, trace } }]
    listeners := w.listeners ++ [.host 0] }

/-- A test on a world without hosts ends as the run of its host does, once its trace is closed. -/
theorem runScript_closes (act : Behaviour κ μ) (fuel : Nat) (unhosted : w.hosts = #[])
    (script : Script κ) (trace : Option Nat) (echo : Bool) :
    (∀ u v, Host.run act fuel 0 (attaching script trace echo w) = .ok u v →
      runScript act fuel script trace echo w = (do closeTrace 0 trace; return 0 : SimM κ μ Nat) v) ∧
    (∀ i v, Host.run act fuel 0 (attaching script trace echo w) = .error i v →
      runScript act fuel script trace echo w =
        (do closeTrace 0 trace; throw i : SimM κ μ Nat) v) := by
  have same : joined script trace echo w = attaching script trace echo w := by
    simp only [joined, attaching, unhosted, Array.size_empty, Array.push_empty]
  have joins := runScript_joined act fuel script trace echo w
  rw [same, unhosted, Array.size_empty] at joins
  exact ⟨fun _ => joins.1, joins.2⟩

/-- A run of a script on a world without hosts and listeners ends as the run of its host does. -/
theorem runScript_concludes (act : Behaviour κ μ) (timed : Timed w.config) (nonneg : 0 ≤ deadline)
    (zero : w.now = 0) (running : w.scheduler.stopped = false) (unheard : w.listeners = [])
    (unhosted : w.hosts = #[])
    (boots : ∀ a ∈ w.scheduler.pending, (∃ id, a.event = .boot id) ∧ 0 ≤ a.due)
    (name : ScriptName) (trace : Option Nat) (echo : Bool) {fuel : Nat}
    (enough : (w.scheduler.pending.length + 1) * (deadline.toNat / 10000 + 1) < fuel) :
    Concludes w.config name deadline
      (runScript act fuel (name.script w.config (some deadline)) trace echo w) := by
  let w' := attaching (name.script w.config (some deadline)) trace echo w
  have timed : Timed w'.config := timed
  have alone : w'.listeners = [.host 0] := by
    change w.listeners ++ [.host 0] = _
    rw [unheard]
    rfl
  have ran : Yields (fun _ => Over w.config deadline name) (fun _ => Failed deadline)
      (Host.run act fuel 0 w') :=
    run_over act timed nonneg zero running alone boots rfl rfl rfl enough
  obtain ⟨returns, raises⟩ :=
    runScript_closes act fuel unhosted (name.script w.config (some deadline)) trace echo
  cases ended : Host.run act fuel 0 w' with
  | ok _ v =>
    rw [ended] at ran
    obtain ⟨o, closed⟩ := closeTrace_apply 0 trace v
    rw [returns _ v ended, bind_ok closed]
    exact (Over.seenBy ran o).concludes
  | error i v =>
    rw [ended] at ran
    obtain ⟨o, closed⟩ := closeTrace_apply 0 trace v
    rw [raises i v ended, bind_ok closed]
    cases i with
    | failure f => exact ran
    | exhausted => exact ran

/-- A simulation that has been put together at time zero boots its motes and is tested. -/
def bootAndTest (act : Behaviour κ μ) (fuel : Nat) (script : Script κ) (trace : Option Nat)
    (echo : Bool) : SimM κ μ Nat := do
  bootAll
  runScript act fuel script trace echo

/-- Every test with a built-in script comes to its end by its deadline, after a number of events that
the number of motes and the deadline bound: it is passed before the deadline by a line that says so, or
its deadline expires exactly then, or it fails by then. It is never given up for lack of events. -/
theorem test_concludes (act : Behaviour κ μ) (assembled : Assembled w) (nonneg : 0 ≤ deadline)
    (name : ScriptName) (trace : Option Nat) (echo : Bool) {fuel : Nat}
    (enough : (w.motes.entries.length + 1) * (deadline.toNat / 10000 + 1) < fuel) :
    Concludes w.config name deadline
      (bootAndTest act fuel (name.script w.config (some deadline)) trace echo w) := by
  have forward : 0 ≤ w.config.bootInterval := by
    rw [assembled.timed.boots]
    decide
  have booted : bootAll w = .ok () (w.booting w.config.bootInterval w.motes.entries) := by
    unfold bootAll
    rw [get_bind_apply]
    exact bootEach_apply forward assembled.nonneg w
  obtain ⟨count, added⟩ := pending_booting forward assembled.nonneg w
  obtain ⟨scheduler, same, now, stopped⟩ :=
    w.booting_keeps w.config.bootInterval w.motes.entries
  rw [same] at booted count added
  have blank : w.scheduler.pending = [] := by rw [assembled.idle]
  have zero : w.now = 0 := by
    rw [World.now, assembled.idle]
  have boots : ∀ a ∈ scheduler.pending, (∃ id, a.event = .boot id) ∧ 0 ≤ a.due := by
    intro a pending
    rcases added a pending with earlier | ⟨boot, due⟩
    · rw [blank] at earlier
      cases earlier
    · exact ⟨boot, zero ▸ due⟩
  have few : (scheduler.pending.length + 1) * (deadline.toNat / 10000 + 1) < fuel := by
    rw [blank, List.length_nil, Nat.zero_add] at count
    exact Nat.lt_of_le_of_lt (Nat.mul_le_mul_right _ (Nat.succ_le_succ count)) enough
  have timed : Timed ({ w with scheduler } : World κ μ).config := assembled.timed
  unfold bootAndTest
  rw [bind_ok booted]
  refine runScript_concludes act timed nonneg (now.trans zero) ?_ assembled.unheard
    assembled.unhosted boots name trace echo few
  change scheduler.stopped = false
  rw [stopped, assembled.idle]

/-- A server, and a client that never comes to its limit. -/
def endless : World Unit Unit :=
  { World.plain () with
    motes := ((∅ : Table Int Mote).put 1 (App.mote .server)).put 3
      (App.mote (.client ⟨1, none⟩ (-1) true)) }

theorem test_concludes_endless :
    Assembled endless ∧ (0 : Int) ≤ 620000 ∧
      (endless.motes.entries.length + 1) * ((620000 : Int).toNat / 10000 + 1) < 200 ∧
      Concludes Config.standard .linkFault 620000
        (bootAndTest (fun _ _ => pure false) 200
          (ScriptName.script endless.config (some 620000) .linkFault) none false endless) ∧
      (final (bootAndTest (fun _ _ => pure false) 200
        (ScriptName.script endless.config (some 620000) .linkFault) none false) endless).now =
          620000 := by
  have assembled : Assembled endless := ⟨⟨rfl, rfl, rfl⟩, rfl, rfl, rfl, by decide +kernel⟩
  have few : (endless.motes.entries.length + 1) * ((620000 : Int).toNat / 10000 + 1) < 200 := by
    decide +kernel
  exact ⟨assembled, by decide, few,
    test_concludes _ assembled (by decide) .linkFault none false few, by decide +kernel⟩

end Test

end MoteTrial.Deadline
