import MoteTrial.Proofs.Reception.Test

/-! # The reception scenario from event to event

What each event of a test with the reception script does, whatever its deadline: the client sends when
its timer expires, until the deadline comes, or until the server fails at a counter that arrives and is
too long to be written. `Underway.sendsAt_iff` and `Underway.delivers_iff` tell which counters are sent,
and which are delivered.
-/

namespace MoteTrial

open SimM Simulation Scenario
open MoteTrial.Random (Draws Jitter)

variable {κ μ : Type}

/-- How many datagrams the server on a mote has received. -/
def World.receivedAt (id : Int) (w : World κ μ) : Option Nat :=
  match (w.motes.find? id).bind Mote.firmware? with
  | some (.server received) => some received
  | _ => none

namespace ReceptionLoss

/-- From one world to the next the client sends a counter. -/
def Sends (n : Nat) (w w' : World κ μ) : Prop :=
  ∃ c c', w.clientAt 3 0 = some c ∧ w'.clientAt 3 0 = some c' ∧ c.sent < n ∧ n ≤ c'.sent

/-- In the course of a test a counter is sent at a time. -/
def SendsAt (worlds : Nat → World κ μ) (n : Nat) (time : Int) : Prop :=
  ∃ k, Sends n (worlds k) (worlds (k + 1)) ∧ (worlds (k + 1)).now = time

/-- In the course of a test a counter is sent and received. -/
def Delivers (worlds : Nat → World κ μ) (n : Nat) : Prop :=
  ∃ k r r', Sends n (worlds k) (worlds (k + 1)) ∧ (worlds k).receivedAt 1 = some r ∧
    (worlds (k + 1)).receivedAt 1 = some r' ∧ r < r'

section Course

variable {act : Behaviour κ μ} {timeout limit : Int} {echo : Bool} {j : Jitter} {ratio : Binary64}
  {d : Draws} {phase : Phase} {n : Nat} {w w' : World κ μ}

/-- Whether those of the first counters that arrive can be written. Otherwise the server fails at the
first that cannot, and the test with it. -/
def Unbroken (arrives : Nat → Bool) (n : Nat) : Prop :=
  ∀ k, k < n → arrives k = true → Numeral.isWritable (k + 1 : Nat) = true

/-- How many counters have been sent in a phase. -/
def sentIn (limit : Int) : Phase → Nat
  | .booting _ _ => 0
  | .sending n => n
  | .silent => limit.toNat

/-- A test that goes on in a phase, between two events. -/
structure Underway (timeout limit : Int) (echo : Bool) (j : Jitter) (ratio : Binary64) (d : Draws)
    (phase : Phase) (w : World κ μ) : Prop where
  on : OnCourse timeout (bench timeout echo limit j (arrives ratio d))
    (net timeout echo limit j ratio d) phase w
  agenda : w.agenda = phase.queue timeout j
  unbroken : Unbroken (arrives ratio d) (sentIn limit phase)

/-- The counters that the client has sent and those that the server has received. -/
structure Shows (arrives : Nat → Bool) (n : Nat) (w : World κ μ) : Prop where
  client : (w.clientAt 3 0).map Client.sent = some n
  server : w.receivedAt 1 = some (Reception.reached arrives n)

/-- One event has the client send the counter after a number of others. -/
structure Sending (timeout limit : Int) (j : Jitter) (arrives : Nat → Bool) (n : Nat)
    (w w' : World κ μ) : Prop where
  due : IsSent timeout limit j (n + 1)
  unbroken : Unbroken arrives n
  clock : w'.now = j.timerDue n
  before : Shows arrives n w
  after : Shows arrives (n + 1) w'

/-- What one event of a test does: it may have the client send its next counter. -/
inductive Moves (timeout limit : Int) (j : Jitter) (arrives : Nat → Bool) (w w' : World κ μ) : Prop where
  | still (same : (w'.clientAt 3 0).map Client.sent = (w.clientAt 3 0).map Client.sent)
  | sends (n : Nat) (sending : Sending timeout limit j arrives n w w')

/-- A world in which the test has come to its end. -/
def Closed (w : World κ μ) : Prop := ∃ host, w.hosts[0]? = some host ∧ host.finished = true

/-- A bound on the events before the deadline. -/
def eventsLeft (timeout : Int) : Phase → Nat
  | .booting _ others => timeout.toNat + others.length + 3
  | .sending n => timeout.toNat + 2 - n
  | .silent => 0

/-- What the next event of a test does: the test goes on from it, or comes to its end, or fails since an
integer cannot be written. -/
inductive Next (act : Behaviour κ μ) (timeout limit : Int) (echo : Bool) (j : Jitter)
    (ratio : Binary64) (d : Draws) (phase : Phase) (w : World κ μ) : Prop where
  | goes (next : Phase) (w' : World κ μ) (further : Underway timeout limit echo j ratio d next w')
    (moves : Moves timeout limit j (arrives ratio d) w w')
    (runs : ∀ fuel, run (fire act) none (fuel + 1) w = run (fire act) none fuel w')
    (fewer : eventsLeft timeout next < eventsLeft timeout phase)
  | ends (w' : World κ μ) (closed : Closed w') (motes : w'.motes = w.motes)
    (runs : ∀ fuel, run (fire act) none (fuel + 1) w = run (fire act) none fuel w')
    (stopped : w'.scheduler.stopped = true) (written : Numeral.isWritable timeout = true)
  | fails (w' : World κ μ) (moves : Moves timeout limit j (arrives ratio d) w w')
    (runs : ∀ fuel,
      run (fire act) none (fuel + 1) w = .error (.failure .unwritableInteger) w')
    (long : Numeral.isWritable timeout = false)

theorem Unbroken.succ {arrives : Nat → Bool} (unbroken : Unbroken arrives n)
    (legible : arrives n = true → Numeral.isWritable (n + 1 : Nat) = true) :
    Unbroken arrives (n + 1) := by
  intro k before here
  by_cases last : k = n
  · subst last
    exact legible here
  · exact unbroken k (by omega) here

theorem Net.shows (net : Net timeout limit j ratio d n w) : Shows (arrives ratio d) n w := by
  refine ⟨?_, ?_⟩
  · rw [World.clientAt_lone net.client]
    rfl
  · unfold World.receivedAt
    rw [net.server]
    rfl

/-- The next event is fired in a world with its time on the clock and the other events ahead, and a run
goes on from what it leaves behind. -/
theorem Underway.next (act : Behaviour κ μ)
    (underway : Underway timeout limit echo j ratio d phase w) {time : Int} {event : Event κ}
    {rest : List (Int × Event κ)} (queue : phase.queue timeout j = (time, event) :: rest) :
    ∃ w₁, OnCourse timeout (bench timeout echo limit j (arrives ratio d))
        (net timeout echo limit j ratio d) phase w₁ ∧
      w₁.motes = w.motes ∧ w₁.now = time ∧ w₁.agenda = rest ∧
      (∀ w', fire act event w₁ = .ok () w' → ∀ fuel,
        run (fire act) none (fuel + 1) w = run (fire act) none fuel w'.finishEvent) ∧
      ∀ i w', fire act event w₁ = .error i w' → ∀ fuel,
        run (fire act) none (fuel + 1) w = .error i w' := by
  obtain ⟨a, s, next, takes, key, left⟩ := World.pops (underway.agenda.trans queue)
  obtain ⟨due, rfl⟩ := Prod.mk.inj key
  have running := underway.on.playing.running
  have ahead := Scheduler.nextDue?_of_takes takes
  have moved := underway.on.moved net_steady (takes.stopped.trans running)
  refine ⟨{ w with scheduler := s }, moved, rfl, takes.now.trans due, left, ?_, ?_⟩
  · intro w' fired fuel
    rw [run_fires running ahead (by simp), bind_ok (step_ok running next fired)]
  · intro i w' failed fuel
    rw [run_fires running ahead (by simp), bind_error (step_error running next failed)]

/-- A boot leads on to the next phase, and nothing is sent. -/
theorem Underway.boots (act : Behaviour κ μ) {id : Int} {others : List Int}
    (underway : Underway timeout limit echo j ratio d (.booting id others) w)
    (soon : 1333 * id ≤ timeout) :
    ∃ w', Underway timeout limit echo j ratio d (.boots others) w' ∧
      Moves timeout limit j (arrives ratio d) w w' ∧
      ∀ fuel, run (fire act) none (fuel + 1) w = run (fire act) none fuel w' := by
  obtain ⟨w₁, on, motes, due, rest, goes_on, _⟩ := underway.next act (if_neg (Int.not_lt.mpr soon))
  obtain ⟨w', booted, further, sets⟩ := starts act on due
  have onward := further.finishEvent net_steady
  have shown : Shows (arrives ratio d) 0 w'.finishEvent := by
    have net := onward.net
    cases others with
    | nil => exact net.1.shows
    | cons _ _ => exact net.2.shows
  refine ⟨w'.finishEvent, ⟨onward, ?_, ?_⟩, .still ?_, goes_on w' booted⟩
  · change w'.agenda = _
    cases others with
    | nil => exact sets.agenda rest
    | cons id' others =>
      rw [World.agenda, sets.pending]
      exact rest
  · intro k before
    cases others with
    | nil => exact absurd before (Nat.not_lt_zero k)
    | cons _ _ => exact absurd before (Nat.not_lt_zero k)
  · exact shown.client.trans underway.on.net.2.shows.client.symm

/-- The end of the client leads on to a phase in which it is silent. -/
theorem Underway.finishes (act : Behaviour κ μ)
    (underway : Underway timeout limit echo j ratio d (.sending n) w) (soon : j.timerDue n < timeout)
    (all : (n : Int) = limit) :
    ∃ w', Underway timeout limit echo j ratio d .silent w' ∧
      Moves timeout limit j (arrives ratio d) w w' ∧
      ∀ fuel, run (fire act) none (fuel + 1) w = run (fire act) none fuel w' := by
  obtain ⟨w₁, on, _, due, rest, goes, _⟩ := underway.next act (if_pos soon)
  obtain ⟨w', ticked, further, sets⟩ := ReceptionLoss.finishes act on due all
  have onward := further.finishEvent net_steady
  have count : limit.toNat = n := by omega
  refine ⟨w'.finishEvent, ⟨onward, sets.agenda rest, ?_⟩, .still ?_, goes w' ticked⟩
  · change Unbroken _ limit.toNat
    rw [count]
    exact underway.unbroken
  · rw [World.clientAt_lone onward.net.1.client, underway.on.net.1.shows.client, count]
    rfl

/-- The client sends its next counter. The test goes on if the counter can be written or does not
arrive, and fails otherwise. -/
theorem Underway.sends (act : Behaviour κ μ)
    (underway : Underway timeout limit echo j ratio d (.sending n) w)
    (sent : IsSent timeout limit j (n + 1)) :
    ∃ w', Sending timeout limit j (arrives ratio d) n w w' ∧
      if arrives ratio d n = true ∧ Numeral.isWritable (n + 1 : Nat) = false then
        ∀ fuel, run (fire act) none (fuel + 1) w = .error (.failure .unwritableInteger) w'
      else Underway timeout limit echo j ratio d (.sending (n + 1)) w' ∧
        ∀ fuel, run (fire act) none (fuel + 1) w = run (fire act) none fuel w' := by
  obtain ⟨_, soon, within⟩ := sent
  have more : (n : Int) ≠ limit := by
    rintro rfl
    have := within (Int.natCast_nonneg n)
    omega
  have shows := underway.on.net.1.shows
  obtain ⟨w₁, on, _, due, rest, goes, fails⟩ := underway.next act (if_pos soon)
  split
  · rename_i overlong
    obtain ⟨w', failed, now, client, server⟩ :=
      breaks act on more overlong.1 overlong.2
    refine ⟨w', ⟨⟨Nat.succ_pos n, soon, within⟩, underway.unbroken, now.trans due, shows, ?_, ?_⟩,
      fails _ w' failed⟩
    · rw [World.clientAt_lone client]
      rfl
    · unfold World.receivedAt
      rw [server]
      rfl
  · rename_i whole
    have legible (here : arrives ratio d n = true) : Numeral.isWritable (n + 1 : Nat) = true := by
      cases long : Numeral.isWritable (n + 1 : Nat) with
      | true => rfl
      | false => exact absurd ⟨here, long⟩ whole
    obtain ⟨w', ticked, further, sets⟩ := goes_on act on due more soon legible
    have onward := further.finishEvent net_steady
    exact ⟨w'.finishEvent,
      ⟨⟨Nat.succ_pos n, soon, within⟩, underway.unbroken, sets.now.trans due, shows,
        onward.net.1.shows⟩,
      ⟨onward, sets.agenda rest, underway.unbroken.succ legible⟩, goes w' ticked⟩

/-- The deadline ends the test: with a verdict, or with a failure if it cannot be written. -/
theorem Underway.expires (act : Behaviour κ μ)
    (underway : Underway timeout limit echo j ratio d phase w) (overdue : phase.Overdue timeout j) :
    Next act timeout limit echo j ratio d phase w := by
  obtain ⟨rest, queue⟩ : ∃ rest : List (Int × Event κ),
      phase.queue timeout j = (timeout, .expire 0 timeout .builtIn) :: rest := by
    cases phase with
    | booting id others => exact ⟨_, if_pos overdue⟩
    | sending n => exact ⟨_, if_neg (Int.not_lt.mpr overdue)⟩
    | silent => exact ⟨_, rfl⟩
  obtain ⟨w₁, on, same, due, _, ends, fails⟩ := underway.next act queue
  cases written : Numeral.isWritable timeout with
  | true =>
    obtain ⟨w', expired, describes, scheduler, motes, _⟩ := on.playing.expires act due written
    refine .ends w'.finishEvent ⟨_, describes.host, rfl⟩ (motes.trans same) (ends w' expired) ?_ written
    change w'.scheduler.stopped = true
    rw [scheduler]
    rfl
  | false =>
    obtain ⟨w', failed, motes⟩ :=
      Host.expire_unwritable act on.playing.host on.playing.listening written .builtIn
    refine .fails w' (.still ?_) (fails _ w' failed) written
    simp only [World.clientAt, motes.trans same]

/-- Every event of a test leads on, or ends it. -/
theorem Underway.next_event (act : Behaviour κ μ)
    (underway : Underway timeout limit echo j ratio d phase w) :
    Next act timeout limit echo j ratio d phase w := by
  by_cases overdue : phase.Overdue timeout j
  · exact underway.expires act overdue
  · cases phase with
    | booting id others =>
      obtain ⟨w', further, moves, runs⟩ := underway.boots act (Int.not_lt.mp overdue)
      refine .goes _ w' further moves runs ?_
      cases others with
      | nil => exact Nat.lt_succ_self _
      | cons _ _ => exact Nat.lt_succ_self _
    | sending n =>
      have soon := Int.not_le.mp overdue
      have paced := j.le_timerDue n
      by_cases all : (n : Int) = limit
      · obtain ⟨w', further, moves, runs⟩ := underway.finishes act soon all
        refine .goes _ w' further moves runs ?_
        simp only [eventsLeft]
        omega
      · have sent := underway.on.net.1.isSent soon all
        obtain ⟨w', sending, result⟩ := underway.sends act sent
        split at result
        · rename_i overlong
          refine .fails w' (.sends n sending) result (Bool.eq_false_iff.mpr fun written => ?_)
          have legible := legible_of_isWritable limit j (arrives ratio d) written (n + 1) sent
          cases (legible overlong.1).symm.trans overlong.2
        · refine .goes _ w' result.1 (.sends n sending) result.2 ?_
          simp only [eventsLeft]
          omega
    | silent => exact absurd trivial overdue

/-- The worlds after each number of events of a run. -/
def worlds (act : Behaviour κ μ) (w : World κ μ) (fuel : Nat) : World κ μ :=
  final (run (fire act) none fuel) w

section Worlds

variable {act : Behaviour κ μ}

theorem worlds_succ (runs : ∀ fuel, run (fire act) none (fuel + 1) w = run (fire act) none fuel w')
    (k : Nat) : worlds act w (k + 1) = worlds act w' k := by
  unfold worlds final
  rw [runs]

theorem worlds_fails {i : Interrupt} (runs : ∀ fuel, run (fire act) none (fuel + 1) w = .error i w')
    (k : Nat) : worlds act w (k + 1) = w' := final_error (runs k)

theorem worlds_stopped (stopped : w.scheduler.stopped = true) (k : Nat) : worlds act w k = w := by
  cases k with
  | zero => rfl
  | succ k => exact final_ok (run_stopped stopped)

end Worlds

/-- What each event of a run does. -/
theorem Underway.run_moves (act : Behaviour κ μ)
    (underway : Underway timeout limit echo j ratio d phase w) (k : Nat) :
    Moves timeout limit j (arrives ratio d) (worlds act w k) (worlds act w (k + 1)) := by
  induction k generalizing phase w with
  | zero =>
    cases underway.next_event act with
    | goes _ w' _ moves runs _ =>
      rw [worlds_succ runs]
      exact moves
    | ends w' _ motes runs _ _ =>
      rw [worlds_succ runs]
      refine .still ?_
      change (w'.clientAt 3 0).map Client.sent = (w.clientAt 3 0).map Client.sent
      simp only [World.clientAt, motes]
    | fails w' moves runs _ =>
      rw [worlds_fails runs]
      exact moves
  | succ k ih =>
    cases underway.next_event act with
    | goes _ w' further _ runs _ =>
      rw [worlds_succ runs, worlds_succ runs]
      exact ih further
    | ends w' _ _ runs stopped _ =>
      rw [worlds_succ runs, worlds_succ runs, worlds_stopped stopped, worlds_stopped stopped]
      exact .still rfl
    | fails w' _ runs _ =>
      rw [worlds_fails runs, worlds_fails runs]
      exact .still rfl

/-- A run that ends, ends the test. -/
theorem Underway.closes (act : Behaviour κ μ)
    (underway : Underway timeout limit echo j ratio d phase w) (fuel : Nat) :
    Returns (fun _ w' => Closed w') (run (fire act) none fuel w) := by
  induction fuel generalizing phase w with
  | zero => exact trivial
  | succ fuel ih =>
    cases underway.next_event act with
    | goes _ w' further _ runs _ =>
      rw [runs]
      exact ih further
    | ends w' closed _ runs stopped _ =>
      rw [runs]
      cases fuel with
      | zero => exact trivial
      | succ fuel =>
        rw [run_stopped stopped]
        exact closed
    | fails w' _ runs _ =>
      rw [runs]
      exact trivial

/-- A run comes to its end, and fails only if the deadline cannot be written. -/
theorem Underway.concludes (act : Behaviour κ μ)
    (underway : Underway timeout limit echo j ratio d phase w) :
    ∃ enough, ∀ fuel, enough ≤ fuel →
      Yields (fun _ _ => Numeral.isWritable timeout = true)
        (fun f _ => f = .unwritableInteger ∧ Numeral.isWritable timeout = false)
        (run (fire act) none fuel w) := by
  generalize left : eventsLeft timeout phase = bound
  induction bound using Nat.strongRecOn generalizing phase w with
  | ind bound ih =>
    subst left
    cases underway.next_event act with
    | goes _ w' further _ runs fewer =>
      obtain ⟨enough, concludes⟩ := ih _ fewer further rfl
      refine ⟨enough + 1, fun fuel more => ?_⟩
      obtain ⟨fuel, rfl⟩ : ∃ less, fuel = less + 1 := ⟨fuel - 1, by omega⟩
      rw [runs]
      exact concludes fuel (by omega)
    | ends w' _ _ runs stopped written =>
      refine ⟨2, fun fuel more => ?_⟩
      obtain ⟨fuel, rfl⟩ : ∃ less, fuel = less + 2 := ⟨fuel - 2, by omega⟩
      rw [runs, run_stopped stopped]
      exact written
    | fails w' _ runs long =>
      refine ⟨1, fun fuel more => ?_⟩
      obtain ⟨fuel, rfl⟩ : ∃ less, fuel = less + 1 := ⟨fuel - 1, by omega⟩
      rw [runs]
      exact ⟨rfl, long⟩

/-- The counters before one that is sent are sent as well. -/
theorem IsSent.earlier {m : Nat} (sent : IsSent timeout limit j n) (positive : 1 ≤ m) (le : m ≤ n) :
    IsSent timeout limit j m := by
  obtain ⟨_, soon, within⟩ := sent
  have sooner := j.timerDue_mono (Nat.sub_le_sub_right le 1)
  refine ⟨positive, by omega, ?_⟩
  intro nonneg
  have := within nonneg
  omega

/-- A counter whose time comes before the deadline is sent, once those before it have been, if the test
has not failed by then. -/
theorem Underway.run_sends (act : Behaviour κ μ)
    (underway : Underway timeout limit echo j ratio d (.sending n) w) (more : Nat)
    (sent : IsSent timeout limit j (n + more + 1))
    (unbroken : Unbroken (arrives ratio d) (n + more)) :
    ∃ k, Sending timeout limit j (arrives ratio d) (n + more) (worlds act w k)
      (worlds act w (k + 1)) := by
  induction more generalizing n w with
  | zero =>
    obtain ⟨w', sending, result⟩ := underway.sends act sent
    have reached : worlds act w 1 = w' := by
      split at result
      · exact worlds_fails result 0
      · exact worlds_succ result.2 0
    refine ⟨0, ?_⟩
    rw [reached]
    exact sending
  | succ more ih =>
    have first := sent.earlier (m := n + 1) (by omega) (by omega)
    obtain ⟨w', _, result⟩ := underway.sends act first
    have whole : ¬ (arrives ratio d n = true ∧ Numeral.isWritable (n + 1 : Nat) = false) := by
      rintro ⟨here, long⟩
      cases (unbroken n (by omega) here).symm.trans long
    rw [if_neg whole] at result
    obtain ⟨further, runs⟩ := result
    rw [show n + (more + 1) = n + 1 + more by omega] at sent unbroken ⊢
    obtain ⟨k, sending⟩ := ih further sent unbroken
    refine ⟨k + 1, ?_⟩
    rw [worlds_succ runs, worlds_succ runs]
    exact sending

/-- From the start of a test, every counter whose time comes before the deadline is sent, if the test has
not failed by then. -/
theorem Underway.run_boots_sends (act : Behaviour κ μ)
    (underway : Underway timeout limit echo j ratio d (.booting 1 [3]) w)
    (sent : IsSent timeout limit j (n + 1)) (unbroken : Unbroken (arrives ratio d) n) :
    ∃ k, Sending timeout limit j (arrives ratio d) n (worlds act w k) (worlds act w (k + 1)) := by
  have late : 603999 < timeout := by
    have := sent.2.1
    have := j.le_timerDue (n + 1 - 1)
    omega
  obtain ⟨w₁, first, _, runs₁⟩ := underway.boots act (by omega)
  obtain ⟨w₂, second, _, runs₂⟩ := first.boots act (by omega)
  have begins (k : Nat) : worlds act w (k + 2) = worlds act w₂ k := by
    rw [worlds_succ runs₁, worlds_succ runs₂]
  have sent' : IsSent timeout limit j (0 + n + 1) := by rwa [Nat.zero_add]
  obtain ⟨k, sending⟩ := Underway.run_sends act second n sent' (by rwa [Nat.zero_add])
  rw [Nat.zero_add] at sending
  refine ⟨k + 2, ?_⟩
  rw [begins k, begins (k + 1)]
  exact sending

/-- Only the counter of its own event is sent by it. -/
theorem Sending.sends_iff {m : Nat} (sending : Sending timeout limit j (arrives ratio d) m w w') :
    Sends n w w' ↔ n = m + 1 := by
  obtain ⟨b, before, sent⟩ := Option.map_eq_some_iff.mp sending.before.client
  obtain ⟨a, after, sent'⟩ := Option.map_eq_some_iff.mp sending.after.client
  constructor
  · rintro ⟨c, c', first, second, more, upto⟩
    cases before.symm.trans first
    cases after.symm.trans second
    omega
  · rintro rfl
    exact ⟨b, a, before, after, by omega, by omega⟩

/-- An event that sends a counter is the one that is described. -/
theorem Moves.sending (moves : Moves timeout limit j (arrives ratio d) w w') (sends : Sends n w w') :
    ∃ m, n = m + 1 ∧ Sending timeout limit j (arrives ratio d) m w w' := by
  cases moves with
  | still same =>
    obtain ⟨c, c', before, after, more, upto⟩ := sends
    rw [before, after] at same
    have := Option.some.inj same
    omega
  | sends m sending => exact ⟨m, sending.sends_iff.mp sends, sending⟩

/-- A counter is sent if its time comes before the deadline, and before the test fails. -/
theorem Underway.sendsAt_iff (act : Behaviour κ μ)
    (underway : Underway timeout limit echo j ratio d (.booting 1 [3]) w) (time : Int) :
    SendsAt (worlds act w) n time ↔
      IsSent timeout limit j n ∧ Unbroken (arrives ratio d) (n - 1) ∧ time = j.timerDue (n - 1) := by
  constructor
  · rintro ⟨k, sends, rfl⟩
    obtain ⟨m, rfl, sending⟩ := (underway.run_moves act k).sending sends
    exact ⟨sending.due, sending.unbroken, sending.clock⟩
  · rintro ⟨sent, unbroken, rfl⟩
    obtain ⟨m, rfl⟩ : ∃ m, n = m + 1 := ⟨n - 1, by have := sent.1; omega⟩
    obtain ⟨k, sending⟩ := underway.run_boots_sends act sent unbroken
    exact ⟨k, sending.sends_iff.mpr rfl, sending.clock⟩

/-- The counters that are delivered are those among them that arrive. -/
theorem Underway.delivers_iff (act : Behaviour κ μ)
    (underway : Underway timeout limit echo j ratio d (.booting 1 [3]) w) :
    Delivers (worlds act w) n ↔ IsSent timeout limit j n ∧ Unbroken (arrives ratio d) (n - 1) ∧
      arrives ratio d (n - 1) = true := by
  have counts (m : Nat) : Reception.reached (arrives ratio d) m <
      Reception.reached (arrives ratio d) (m + 1) ↔ arrives ratio d m = true := by
    rw [Reception.reached_succ]
    cases arrives ratio d m <;> simp
  constructor
  · rintro ⟨k, r, r', sends, before, after, more⟩
    obtain ⟨m, rfl, sending⟩ := (underway.run_moves act k).sending sends
    obtain rfl := Option.some.inj (sending.before.server.symm.trans before)
    obtain rfl := Option.some.inj (sending.after.server.symm.trans after)
    exact ⟨sending.due, sending.unbroken, (counts m).mp more⟩
  · rintro ⟨sent, unbroken, here⟩
    obtain ⟨m, rfl⟩ : ∃ m, n = m + 1 := ⟨n - 1, by have := sent.1; omega⟩
    obtain ⟨k, sending⟩ := underway.run_boots_sends act sent unbroken
    exact ⟨k, _, _, sending.sends_iff.mpr rfl, sending.before.server, sending.after.server,
      (counts m).mpr here⟩

end Course

section Test

variable {timeout limit : Int} {echo : Bool} {ratio : Binary64} {amount : Option Amount} {w : World κ μ}

/-- A test is a run that starts with the boots. -/
theorem test_starts (timeout limit : Int) (echo : Bool) (fresh : w.Fresh)
    (declares : Declares amount ratio) :
    ∃ made : World κ μ, made.hosts = #[] ∧
      Underway timeout limit echo w.jitter ratio w.medium.draws (.booting 1 [3])
        (made.testing .reception timeout echo) ∧
      ∀ act fuel, test act amount limit timeout echo fuel w = runScript act fuel
        (ScriptName.reception.script Config.standard (some timeout)) none echo made := by
  obtain ⟨made, assembled, ready⟩ := (Network.reception limit declares).assemble_apply fresh
  have built := (Network.buildReception_eq fresh.standard limit declares).trans assembled
  obtain ⟨network, boots⟩ : Net timeout limit w.jitter ratio w.medium.draws 0 made ∧ made.agenda = _ :=
    ready_net ready
  have on : OnCourse timeout (bench timeout echo limit w.jitter (arrives ratio w.medium.draws))
      (net timeout echo limit w.jitter ratio w.medium.draws) (.booting 1 [3])
      (made.testing .reception timeout echo) := by
    refine ⟨ready.playing fresh .reception echo, ?_⟩
    exact net_steady _ _ _ ⟨.inl ⟨rfl, rfl⟩, network⟩ rfl rfl rfl
  have agenda : (made.testing .reception timeout echo).agenda =
      (Phase.booting 1 [3]).queue timeout w.jitter := ready.agenda_testing boots .reception echo
  exact ⟨made, ready.unhosted fresh, ⟨on, agenda, fun k before => absurd before (Nat.not_lt_zero k)⟩,
    fun act fuel => bind_ok built _⟩

/-- The worlds that a test comes through are those of its run. -/
theorem test_worlds (act : Behaviour κ μ) (limit : Int) (echo : Bool) (nonneg : 0 ≤ timeout)
    (fresh : w.Fresh) (declares : Declares amount ratio) :
    ∃ start, Underway timeout limit echo w.jitter ratio w.medium.draws (.booting 1 [3]) start ∧
      ∀ fuel, final (test act amount limit timeout echo fuel) w = worlds act start fuel := by
  obtain ⟨made, unhosted, underway, tested⟩ := test_starts timeout limit echo fresh declares
  refine ⟨_, underway, fun fuel => ?_⟩
  have closes := underway.closes act fuel
  unfold worlds final
  rw [tested]
  cases looped : run (fire act) none fuel (made.testing .reception timeout echo) with
  | error i w' => rw [runScript_error nonneg unhosted looped]
  | ok time w' =>
    rw [looped] at closes
    obtain ⟨host, present, finished⟩ : Closed w' := closes
    rw [runScript_ok nonneg unhosted looped present finished]

/-- The worlds after each number of events of a test. -/
def duringTest (act : Behaviour κ μ) (amount : Option Amount) (limit timeout : Int) (echo : Bool)
    (w : World κ μ) (fuel : Nat) : World κ μ := final (test act amount limit timeout echo fuel) w

/-- How a test ends: it returns, or fails if its deadline cannot be written. -/
def Concludes (timeout : Int) (result : EStateM.Result Interrupt (World κ μ) Nat) : Prop :=
  if Numeral.isWritable timeout then ∃ w, result = .ok 0 w
  else ∃ w, result = .error (.failure .unwritableInteger) w

theorem concludes_test (act : Behaviour κ μ) (limit : Int) (echo : Bool) (nonneg : 0 ≤ timeout)
    (fresh : w.Fresh) (declares : Declares amount ratio) :
    ∃ enough, ∀ fuel, enough ≤ fuel →
      Concludes timeout (test act amount limit timeout echo fuel w) := by
  obtain ⟨made, unhosted, underway, tested⟩ := test_starts timeout limit echo fresh declares
  obtain ⟨enough, concludes⟩ := underway.concludes act
  refine ⟨enough, fun fuel more => ?_⟩
  have ends := concludes fuel more
  have closes := underway.closes act fuel
  unfold Concludes
  rw [tested]
  cases looped : run (fire act) none fuel (made.testing .reception timeout echo) with
  | error i w' =>
    rw [looped] at ends
    cases i with
    | exhausted => exact ends.elim
    | failure f =>
      obtain ⟨rfl, long⟩ := ends
      rw [long, runScript_error nonneg unhosted looped]
      exact ⟨w', rfl⟩
  | ok time w' =>
    rw [looped] at ends closes
    obtain ⟨host, present, finished⟩ : Closed w' := closes
    rw [show Numeral.isWritable timeout = true from ends,
      runScript_ok nonneg unhosted looped present finished]
    exact ⟨w', rfl⟩

end Test

end ReceptionLoss

end MoteTrial
