import MoteTrial.Proofs.Client.Lone
import MoteTrial.Proofs.Reception.Losses

/-! # The reception network from event to event

On the only link of the reception network the draws decide which counters of the client arrive. What a
boot and the timer of the client make of the network, and of the reception script, which accounts for
the counters that arrive.
-/

namespace MoteTrial

open SimM Simulation Scenario
open MoteTrial.Random (Draws Jitter)

variable {κ μ : Type}

/-- The source of draws once some have been taken. -/
def Random.Draws.after (d : Draws) : Nat → Draws
  | 0 => d
  | n + 1 => (d.after n).next.2

namespace ReceptionLoss

/-- Whether a counter arrives on a link of a given ratio, numbered from zero: the link is live and the
draw is below its ratio. -/
def arrives (ratio : Binary64) (d : Draws) (n : Nat) : Bool :=
  !ratio.le Binary64.zero && (Medium.drawValue (d.after n).next.1).lt ratio

/-- A host whose reception script goes on with an account. -/
structure Counts (timeout : Int) (r : Reception) (host : Host κ) : Prop where
  script : host.script = .reception timeout true none r
  verdict : host.log.verdict = none

section Host

variable {timeout : Int} {r : Reception} {host : Host κ}

/-- A reception line is accounted for. -/
theorem Counts.received (counts : Counts timeout r host) (mote : Int) {n : Int}
    (shown : Numeral.isWritable n = true) (last : Numeral.isWritable r.last = true)
    (lost : Numeral.isWritable (r.record n).lost = true) :
    let a := host.answer mote ("received " ++ Numeral.decimal n)
    a.outcome = .ok false ∧ a.change? = none ∧ Counts timeout (r.record n) a.settled := by
  have read := Message.parseReceived_received shown
  have logged : Host.canLog r n = true := by
    simp only [Host.canLog, shown, lost, last, Bool.and_self]
  simp only [Host.answer, counts.script, Host.answerReception, read, logged, ↓reduceIte]
  exact ⟨trivial, trivial, rfl, counts.verdict⟩

/-- The end of the client is no matter. -/
theorem Counts.done (counts : Counts timeout r host) (mote : Int) :
    let a := host.answer mote Config.standard.keywordDone
    a.outcome = .ok false ∧ a.change? = none ∧ Counts timeout r a.settled := by
  have other : Text.startsWith Config.standard.keywordDone Config.standard.keywordReceived = false := by
    decide
  have unread : Message.parseReceived Config.standard Config.standard.keywordDone = .ok none := by
    rw [Message.parseReceived, other]
    rfl
  simp only [Host.answer, counts.script, Host.answerReception, unread]
  exact ⟨trivial, trivial, counts.script, counts.verdict⟩

/-- The account decides on the verdict at the deadline. -/
theorem Counts.expired (counts : Counts timeout r host) :
    host.expired.script = .reception timeout true none r ∧
      host.expired.log.verdict = some (if r.success then .passed else .failed) := by
  obtain ⟨script, verdict⟩ := counts
  rw [Host.expired_reception script verdict]
  refine ⟨script, ?_⟩
  cases r.success with
  | true => rfl
  | false => exact congrArg TestLog.verdict (TestLog.failed_of_undecided verdict _)

end Host

/-- The script once a number of counters have been sent. -/
def heard (timeout : Int) (echo : Bool) (j : Jitter) (arrives : Nat → Bool) : Nat → Bench κ
  | 0 => ScriptName.reception.started timeout echo [1, 3]
  | n + 1 =>
    if arrives n then
      (heard timeout echo j arrives n).hear
        ⟨j.timerDue n, 1, "received " ++ Numeral.decimal (n + 1 : Nat)⟩
    else heard timeout echo j arrives n

/-- The script in a phase of the network. -/
def bench (timeout : Int) (echo : Bool) (limit : Int) (j : Jitter) (arrives : Nat → Bool) :
    Phase → Bench κ
  | .booting id _ => ScriptName.reception.started timeout echo ([1, 3].filter (· < id))
  | .sending n => heard timeout echo j arrives n
  | .silent => (heard timeout echo j arrives limit.toNat).hear
      ⟨j.timerDue limit.toNat, 3, Config.standard.keywordDone⟩

/-- The client once it has sent a number of counters. -/
def clientAfter (limit : Int) (arrives : Nat → Bool) (n : Nat) : Client :=
  { route := ⟨1, none⟩, limit, reports := false, counter := n, sent := n,
    delivered := Reception.reached arrives n }

/-- The network once a number of counters have been sent. -/
structure Net (timeout limit : Int) (j : Jitter) (ratio : Binary64) (d : Draws) (n : Nat)
    (w : World κ μ) : Prop where
  server : w.motes.find? 1 = some ⟨#[.server (Reception.reached (arrives ratio d) n)]⟩
  client : w.motes.find? 3 = some ⟨#[.client (clientAfter limit (arrives ratio d) n)]⟩
  jitter : w.jitter = j.after n
  link : w.medium.link? 1 3 = some ⟨ratio, ratio, false⟩
  draws : ratio.le Binary64.zero = false → w.medium.draws = d.after n
  within : 0 ≤ limit → (n : Int) ≤ limit
  early : ∀ k, k < n → j.timerDue k < timeout

/-- The client once it has sent all counters. -/
structure Done (timeout limit : Int) (j : Jitter) (arrives : Nat → Bool) (w : World κ μ) : Prop where
  server : w.motes.find? 1 = some ⟨#[.server (Reception.reached arrives limit.toNat)]⟩
  client : w.motes.find? 3 = some ⟨#[.client (clientAfter limit arrives limit.toNat).finish]⟩
  nonneg : 0 ≤ limit
  early : ∀ k, k < limit.toNat → j.timerDue k < timeout

/-- What holds of the network, and of the script, in a phase. -/
def net (timeout : Int) (echo : Bool) (limit : Int) (j : Jitter) (ratio : Binary64) (d : Draws) :
    Phase → World κ μ → Prop
  | .booting id others, w => (id = 1 ∧ others = [3] ∨ id = 3 ∧ others = []) ∧
      Net timeout limit j ratio d 0 w
  | .sending n, w => Net timeout limit j ratio d n w ∧
      Counts timeout (Reception.afterSending (arrives ratio d) n)
        (heard timeout echo j (arrives ratio d) n : Bench κ).host
  | .silent, w => Done timeout limit j (arrives ratio d) w ∧
      Counts timeout (Reception.afterSending (arrives ratio d) limit.toNat)
        (bench timeout echo limit j (arrives ratio d) .silent : Bench κ).host

section Steps

variable {timeout limit : Int} {echo : Bool} {j : Jitter} {ratio : Binary64} {d : Draws} {n : Nat}
  {w w' : World κ μ}

theorem Net.aside (net : Net timeout limit j ratio d n w) (motes : w'.motes = w.motes)
    (medium : w'.medium = w.medium) (jitter : w'.jitter = w.jitter) :
    Net timeout limit j ratio d n w' := by
  refine ⟨?_, ?_, ?_, ?_, ?_, net.within, net.early⟩
  · rw [motes]
    exact net.server
  · rw [motes]
    exact net.client
  · rw [jitter]
    exact net.jitter
  · rw [medium]
    exact net.link
  · rw [medium]
    exact net.draws

theorem counts_started (timeout : Int) (echo : Bool) :
    Counts timeout {} (ScriptName.reception.started timeout echo [1, 3] : Bench κ).host :=
  ⟨rfl, rfl⟩

/-- Whether the next counter arrives, and the draw that decides it. -/
theorem Net.carried (net : Net timeout limit j ratio d n w) :
    (w.carried (clientAfter limit (arrives ratio d) n)).1 = arrives ratio d n ∧
      (ratio.le Binary64.zero = false →
        (w.carried (clientAfter limit (arrives ratio d) n)).2.draws = d.after (n + 1)) := by
  have link := net.link
  rw [Medium.link?_comm] at link
  have direct : w.carried (clientAfter limit (arrives ratio d) n) = w.medium.transmit 3 1 :=
    Medium.carry_direct ..
  rw [direct]
  cases live : ratio.le Binary64.zero with
  | true =>
    rw [Medium.transmit_dead link live]
    refine ⟨?_, nofun⟩
    simp only [arrives, live, Bool.not_true, Bool.false_and]
  | false =>
    rw [Medium.transmit_live link live, net.draws live]
    refine ⟨?_, fun _ => rfl⟩
    simp only [arrives, live, Bool.not_false, Bool.true_and]

/-- The network once the next counter has been sent. -/
theorem Net.sent (net : Net timeout limit j ratio d n w)
    (sent : Sent (arrives ratio d n) (clientAfter limit (arrives ratio d) n)
      (Reception.reached (arrives ratio d) n) w w')
    (more : (n : Int) ≠ limit) (early : j.timerDue n < timeout) :
    Net timeout limit j ratio d (n + 1) w' := by
  obtain ⟨draws, medium⟩ := w.medium.carry_keeps 3 1
    ((clientAfter limit (arrives ratio d) n).route.relay.filter fun relay => w.motes.has relay)
  have count := Reception.reached_succ (arrives ratio d) n
  constructor
  · rw [count]
    exact sent.server
  · rw [clientAfter, count, sent.client]
    cases arrives ratio d n <;> rfl
  · rw [sent.jitter, net.jitter]
    rfl
  · rw [sent.medium.trans medium]
    exact net.link
  · intro live
    rw [sent.medium]
    exact net.carried.2 live
  · intro nonneg
    have := net.within nonneg
    omega
  · intro k before
    by_cases last : k = n
    · rw [last]
      exact early
    · exact net.early k (by omega)

/-- The integers that the script logs for a counter that arrives can be written, if the counter can. -/
theorem shown_record {arrives : Nat → Bool} (here : arrives n = true)
    (shown : Numeral.isWritable (n + 1 : Nat) = true) :
    Numeral.isWritable (Reception.afterSending arrives n).last = true ∧
      Numeral.isWritable ((Reception.afterSending arrives n).record (n + 1 : Nat)).lost = true := by
  have before := Reception.account_afterSending arrives n
  have after := before.record here
  constructor
  · obtain ⟨_, _, balanced, _, within, _⟩ := before
    exact isWritable_of_le (by omega) (by omega) shown
  · obtain ⟨_, _, balanced, _, within, _⟩ := after
    exact isWritable_of_le (by omega) (by omega) shown

/-- The timer of the client expires before it has sent all counters; the next one can be written if it
arrives. -/
theorem goes_on (act : Behaviour κ μ)
    (on : OnCourse timeout (bench timeout echo limit j (arrives ratio d))
      (net timeout echo limit j ratio d) (.sending n) w)
    (due : w.now = j.timerDue n) (more : (n : Int) ≠ limit) (early : j.timerDue n < timeout)
    (legible : arrives ratio d n = true → Numeral.isWritable (n + 1 : Nat) = true) :
    ∃ w', tick (hear act) 3 0 w = .ok () w' ∧
      OnCourse timeout (bench timeout echo limit j (arrives ratio d)) (net timeout echo limit j ratio d)
        (.sending (n + 1)) w' ∧
      Sets (some (j.timerDue (n + 1))) w w' := by
  obtain ⟨playing, net, counts⟩ := on
  obtain ⟨carried, _⟩ := net.carried
  have listening : (ReceptionLoss.heard timeout echo j (arrives ratio d) n : Bench κ).host.finished =
      false := playing.listening
  have unfinished : (clientAfter limit (arrives ratio d) n).exhausted = false := decide_eq_false more
  have ticked : tick (hear act) 3 0 w = sendNext (hear act) 3 0 w := by
    rw [tick_client playing.standard (World.clientAt_lone net.client), unfinished]
    rfl
  have next : w.now + (10000 + ((w.jitter.next 500).1 : Int)) = j.timerDue (n + 1) := by
    rw [due, net.jitter, j.timerDue_succ]
    rfl
  rw [ticked]
  cases heard : arrives ratio d n with
  | false =>
    obtain ⟨w', sent, playing', changes⟩ :=
      playing.sends_lost act net.client rfl net.server (carried.trans heard)
    refine ⟨w', sent, ⟨?_, net.sent (heard ▸ changes) more early, ?_⟩, next ▸ changes.sets⟩
    · simpa only [bench, ReceptionLoss.heard, heard, Bool.false_eq_true, ↓reduceIte] using playing'
    · simpa only [Reception.afterSending_succ, ReceptionLoss.heard, heard, Bool.false_eq_true,
        ↓reduceIte] using counts
  | true =>
    have shown := legible heard
    obtain ⟨last, lost⟩ := shown_record heard shown
    obtain ⟨goes, still, counts'⟩ := counts.received 1 shown last lost
    obtain ⟨w', sent, playing', changes⟩ :=
      playing.sends_heard act net.client rfl net.server (carried.trans heard) shown goes still
    refine ⟨w', sent, ⟨?_, net.sent (heard ▸ changes) more early, ?_⟩, next ▸ changes.sets⟩
    · rw [due] at playing'
      simp only [bench, ReceptionLoss.heard, heard, ↓reduceIte]
      exact playing'
    · simp only [Reception.afterSending_succ, ReceptionLoss.heard, heard, ↓reduceIte]
      rw [Bench.hear_listening listening]
      exact counts'

/-- The next counter arrives, but cannot be written: the test fails once the server has counted it. -/
theorem breaks (act : Behaviour κ μ)
    (on : OnCourse timeout (bench timeout echo limit j (arrives ratio d))
      (net timeout echo limit j ratio d) (.sending n) w)
    (more : (n : Int) ≠ limit) (here : arrives ratio d n = true)
    (long : Numeral.isWritable (n + 1 : Nat) = false) :
    ∃ w', tick (hear act) 3 0 w = .error (.failure .unwritableInteger) w' ∧ w'.now = w.now ∧
      w'.motes.find? 3 = some ⟨#[.client (clientAfter limit (arrives ratio d) n).advance]⟩ ∧
      w'.motes.find? 1 = some ⟨#[.server (Reception.reached (arrives ratio d) (n + 1))]⟩ := by
  obtain ⟨playing, net, _⟩ := on
  have unfinished : (clientAfter limit (arrives ratio d) n).exhausted = false := decide_eq_false more
  have heard := net.carried.1.trans here
  rw [tick_client playing.standard (World.clientAt_lone net.client), unfinished, Reception.reached_succ,
    here]
  refine ⟨_, sendNext_unwritable net.client rfl net.server heard long, rfl, ?_,
    Table.find?_put_self ..⟩
  exact (Table.find?_put_of_ne _ _ (by decide)).trans (Table.find?_put_self ..)

/-- The timer of the client expires once it has sent all counters. -/
theorem finishes (act : Behaviour κ μ)
    (on : OnCourse timeout (bench timeout echo limit j (arrives ratio d))
      (net timeout echo limit j ratio d) (.sending n) w)
    (due : w.now = j.timerDue n) (all : (n : Int) = limit) :
    ∃ w', tick (hear act) 3 0 w = .ok () w' ∧
      OnCourse timeout (bench timeout echo limit j (arrives ratio d)) (net timeout echo limit j ratio d)
        .silent w' ∧
      Sets none w w' := by
  obtain ⟨playing, net, counts⟩ := on
  obtain ⟨goes, still, counts'⟩ := counts.done 3
  have listening : (heard timeout echo j (arrives ratio d) n : Bench κ).host.finished = false :=
    playing.listening
  have count : limit.toNat = n := by omega
  obtain ⟨told, ticked, changes⟩ := playing.says_done act net.client (decide_eq_true all) goes
    fun dated => absurd ⟨goes, still⟩ dated
  have scheduler := changes.scheduler_eq goes
  refine ⟨_, ticked, ⟨?_, ⟨?_, ?_, by omega, ?_⟩, ?_⟩, ?_, ?_⟩
  · have after := (playing.after changes goes).putMote 3
      ⟨#[.client (clientAfter limit (arrives ratio d) n).finish]⟩
    rw [due] at after
    simp only [bench, count]
    exact after
  · refine (Table.find?_put_of_ne _ _ (by decide)).trans ?_
    rw [changes.motes, count]
    exact net.server
  · rw [count]
    exact Table.find?_put_self ..
  · intro k before
    exact net.early k (by omega)
  · simp only [bench, count]
    rw [Bench.hear_listening listening]
    exact counts'
  · change told.scheduler.now = _
    rw [scheduler]
    rfl
  · change told.scheduler.pending = _
    rw [scheduler]

/-- A mote boots. -/
theorem starts (act : Behaviour κ μ) {id : Int} {others : List Int}
    (on : OnCourse timeout (bench timeout echo limit j (arrives ratio d))
      (net timeout echo limit j ratio d) (.booting id others) w)
    (due : w.now = 1333 * id) :
    ∃ w', boot (hear act) id w = .ok () w' ∧
      OnCourse timeout (bench timeout echo limit j (arrives ratio d)) (net timeout echo limit j ratio d)
        (.boots others) w' ∧
      Sets ((Phase.boots others).timer? j) w w' := by
  obtain ⟨playing, order, net⟩ := on
  have shown : Numeral.isWritable 1 = true ∧ Numeral.isWritable 3 = true := by decide +kernel
  rcases order with ⟨rfl, rfl⟩ | ⟨rfl, rfl⟩
  · obtain ⟨w', booted, playing', motes, medium, jitter, sets⟩ :=
      playing.boots act shown.1 net.server rfl nofun rfl rfl
    rw [due] at playing'
    exact ⟨w', booted, ⟨playing', .inr ⟨rfl, rfl⟩, net.aside motes medium jitter⟩, sets⟩
  · obtain ⟨w', booted, playing', motes, medium, jitter, sets⟩ :=
      playing.boots act shown.2 net.client rfl (fun _ => ⟨rfl, rfl⟩) rfl rfl
    rw [due] at playing' sets
    exact ⟨w', booted, ⟨playing', net.aside motes medium jitter, counts_started ..⟩, sets⟩

end Steps

end ReceptionLoss

end MoteTrial
