import MoteTrial.Proofs.Client.Lone
import MoteTrial.Proofs.WeakLink.Script

/-! # The weak-link network from event to event

Every datagram of the client is received: over the direct link while that is usual, by way of the relay
while the script has cut it. What a boot makes of the network and of the script, and what the timer of
the client does.
-/

namespace MoteTrial

open SimM Simulation Scenario LogFile
open MoteTrial.Random (Jitter)

variable {κ μ : Type}

namespace WeakLink

/-- The network once a number of counters have been sent, the direct link being cut or not. -/
structure Net (limit : Int) (j : Jitter) (n : Nat) (isCut : Bool) (w : World κ μ) : Prop where
  server : w.motes.find? 1 = some ⟨#[.server n]⟩
  relay : w.motes.find? 2 = some ⟨#[.base]⟩
  client : w.motes.find? 3 = some ⟨#[.client (clientAfter limit n)]⟩
  jitter : w.jitter = j.after n
  direct : w.medium.link? 1 3 = some (directLink isCut)
  near : w.medium.link? 1 2 = some Medium.usualLink
  far : w.medium.link? 2 3 = some Medium.usualLink
  within : 0 ≤ limit → (n : Int) ≤ limit

/-- What holds of the network, and of the script, in a phase. -/
def net (timeout : Int) (echo : Bool) (limit : Int) (j : Jitter) : Phase → World κ μ → Prop
  | .booting id others, w =>
    (id = 1 ∧ others = [2, 3] ∨ id = 2 ∧ others = [3] ∨ id = 3 ∧ others = []) ∧ Net limit j 0 false w
  | .sending n, w => Net limit j n (cut limit n) w ∧
      Stands timeout (reports n) (changes limit j n) (heard timeout echo limit j n : Bench κ)
  | .silent, _ => False

/-- The end of a test that has passed. -/
structure Passed (timeout limit : Int) (j : Jitter) (w : World κ μ) : Prop where
  nonneg : 0 ≤ limit
  early : j.timerDue limit.toNat < timeout
  host : ∃ host, w.hosts[0]? = some host ∧ host.finished = true ∧
    host.log.verdict = some .passed ∧ host.log.reason = "" ∧ host.log.lines = reports limit.toNat
  mutations : w.medium.mutations = changes limit j limit.toNat
  now : w.now = j.timerDue limit.toNat
  server : (w.motes.find? 1).bind Mote.firmware? = some (.server limit.toNat)
  direct : w.medium.link? 1 3 = some Medium.usualLink

section Steps

variable {timeout limit : Int} {echo : Bool} {j : Jitter} {n : Nat} {isCut : Bool}
  {lines : Array String} {mutations : Array Mutation} {b : Bench κ} {w w' : World κ μ}

theorem Net.aside (net : Net limit j n isCut w) (motes : w'.motes = w.motes)
    (medium : w'.medium = w.medium) (jitter : w'.jitter = w.jitter) : Net limit j n isCut w' := by
  refine ⟨?_, ?_, ?_, ?_, ?_, ?_, ?_, net.within⟩
  · rw [motes]
    exact net.server
  · rw [motes]
    exact net.relay
  · rw [motes]
    exact net.client
  · rw [jitter]
    exact net.jitter
  · rw [medium]
    exact net.direct
  · rw [medium]
    exact net.near
  · rw [medium]
    exact net.far

theorem dead_directLink : (directLink true).current.le Binary64.zero = true := by decide +kernel

/-- Every counter arrives, if not over the direct link then by way of the relay. -/
theorem Net.carried (net : Net limit j n isCut w) : (w.carried (clientAfter limit n)).1 = true := by
  have relays : ((clientAfter limit n).route.relay.filter fun relay => w.motes.has relay) = some 2 := by
    have known : w.motes.has 2 = true := by rw [Table.has, net.relay]; rfl
    change Option.filter _ (some 2) = _
    rw [Option.filter_some, if_pos known]
  have direct := net.direct
  rw [Medium.link?_comm] at direct
  unfold World.carried Medium.carry
  rw [relays]
  cases isCut with
  | false => simp only [Medium.transmit_usual direct, ↓reduceIte]
  | true =>
    have toRelay := net.far
    rw [Medium.link?_comm] at toRelay
    obtain ⟨draws, sent⟩ := w.medium.transmit_keeps 3 2
    have fromRelay : (w.medium.transmit 3 2).2.link? 2 1 = some Medium.usualLink := by
      rw [sent, Medium.link?_comm]
      exact net.near
    simp only [Medium.transmit_dead direct dead_directLink, Medium.transmit_usual toRelay,
      Medium.transmit_usual fromRelay, Bool.false_eq_true, ↓reduceIte]

/-- The client sends its next counter, which the server reports. -/
theorem sends (act : Behaviour κ μ) (playing : Playing timeout b w)
    (stands : Stands timeout lines mutations b) (net : Net limit j n isCut w)
    (due : w.now = j.timerDue n) (writable : Numeral.isWritable w.now = true)
    (more : (n : Int) ≠ limit) :
    ∃ w', sendNext (hear act) 3 0 w = .ok () w' ∧
      Playing timeout (b.hear ⟨j.timerDue n, 1, "received " ++ Numeral.decimal (n + 1 : Nat)⟩) w' ∧
      Net limit j (n + 1) isCut w' ∧ Sets (some (j.timerDue (n + 1))) w w' := by
  have paced : 10000 * (n : Int) ≤ w.now := by
    have := j.le_timerDue n
    omega
  obtain ⟨goes, still, _⟩ := stands.bound.received 1 (n + 1 : Nat)
  obtain ⟨w', ran, playing', sent⟩ := playing.sends_heard act net.client rfl net.server
    net.carried (isWritable_next paced writable) goes still
  obtain ⟨draws, medium⟩ := w.medium.carry_keeps 3 1
    ((clientAfter limit n).route.relay.filter fun relay => w.motes.has relay)
  have air : w'.medium = { w.medium with draws } := sent.medium.trans medium
  refine ⟨w', ran, due ▸ playing', ⟨sent.server, ?_, sent.client, ?_, ?_, ?_, ?_, ?_⟩, ?_⟩
  · exact (sent.others 2 (by decide) (by decide)).trans net.relay
  · rw [sent.jitter, net.jitter]
    rfl
  · rw [air]
    exact net.direct
  · rw [air]
    exact net.near
  · rw [air]
    exact net.far
  · intro nonneg
    have := net.within nonneg
    omega
  · have sets := sent.sets
    rwa [due, net.jitter, show j.timerDue n + (10000 + (((j.after n).next 500).1 : Int)) =
      j.timerDue (n + 1) from (j.timerDue_succ n).symm] at sets

/-- The client asks for a change of the direct link, which the script makes. -/
theorem asks (act : Behaviour κ μ) (playing : Playing timeout b w)
    (stands : Stands timeout lines mutations b) (net : Net limit j n (cut limit n) w)
    (writable : Numeral.isWritable w.now = true) {kind : Change}
    (wanted : requestAt limit n = some kind) :
    ∃ w', emit (hear act) 3 (request kind) w = .ok () w' ∧
      Playing timeout (b.hear ⟨w.now, 3, request kind⟩) w' ∧ Net limit j n (cut limit (n + 1)) w' ∧
      Sets none w w' := by
  obtain ⟨goes, change, _⟩ := stands.bound.requested 3 kind
  obtain ⟨w', emitted, heard⟩ := playing.emit_apply act 3 (request kind) fun _ => writable
  have medium : w'.medium = w.medium.changed w.now kind 1 3 := by
    rw [heard.medium, Answer.medium, change]
  have link : kind.apply Config.standard (directLink (cut limit n)) =
      directLink (cut limit (n + 1)) := by
    have step := cut_succ limit n
    rwa [wanted] at step
  have scheduler := heard.scheduler_eq goes
  rw [goes] at emitted
  refine ⟨w', emitted, playing.after heard goes, ⟨?_, ?_, ?_, ?_, ?_, ?_, ?_, net.within⟩, ?_, ?_⟩
  · rw [heard.motes]
    exact net.server
  · rw [heard.motes]
    exact net.relay
  · rw [heard.motes]
    exact net.client
  · rw [heard.jitter]
    exact net.jitter
  · rw [medium, ← link]
    have changed := Medium.link?_setLink_self w.medium 1 3
      (kind.apply Config.standard ((w.medium.link? 1 3).getD Medium.usualLink))
    rw [net.direct] at changed
    rw [Medium.changed, net.direct]
    exact changed
  · rw [medium]
    exact (Medium.link?_setLink_of_ne (by decide) _ _).trans net.near
  · rw [medium]
    exact (Medium.link?_setLink_of_ne (by decide) _ _).trans net.far
  · rw [World.now, scheduler]
    rfl
  · simp only
    rw [scheduler]

/-- The timer of the client expires before it has sent all counters. -/
theorem goes_on (act : Behaviour κ μ)
    (on : OnCourse timeout (bench timeout echo limit j) (net timeout echo limit j) (.sending n) w)
    (due : w.now = j.timerDue n) (writable : Numeral.isWritable w.now = true)
    (more : (n : Int) ≠ limit) :
    ∃ w', tick (hear act) 3 0 w = .ok () w' ∧
      OnCourse timeout (bench timeout echo limit j) (net timeout echo limit j) (.sending (n + 1)) w' ∧
      Sets (some (j.timerDue (n + 1))) w w' := by
  obtain ⟨playing, net, stands⟩ := on
  have unfinished : (clientAfter limit n).exhausted = false := decide_eq_false more
  have again := stands.bound
  rw [tick_client playing.standard (World.clientAt_lone net.client), unfinished]
  simp only [Bool.false_eq_true, ↓reduceIte, progress?_clientAfter]
  cases wanted : requestAt limit n with
  | none =>
    have same : cut limit (n + 1) = cut limit n := by
      have step := cut_succ limit n
      rwa [wanted] at step
    have steady : (asked limit j n (heard timeout echo limit j n) : Bench κ) =
        heard timeout echo limit j n := by
      simp only [asked, wanted]
    obtain ⟨w', sent, playing', net', sets⟩ := sends act playing stands net due writable more
    refine ⟨w', sent, ⟨?_, ?_⟩, sets⟩
    · simp only [bench, heard, steady]
      exact playing'
    · refine ⟨same ▸ net', ?_⟩
      simp only [reports_succ, changes, wanted, heard, steady]
      exact stands.received playing.listening _ _ _
  | some kind =>
    have asks_for : (asked limit j n (heard timeout echo limit j n) : Bench κ) =
        (heard timeout echo limit j n).hear ⟨j.timerDue n, 3, request kind⟩ := by
      simp only [asked, wanted]
    obtain ⟨w₁, emitted, playing₁, net₁, still⟩ := asks act playing stands net writable wanted
    have stands₁ := stands.requested playing.listening (j.timerDue n) 3 kind
    rw [due] at playing₁
    obtain ⟨w', sent, playing', net', sets⟩ := sends act playing₁ stands₁ net₁
      (still.now.trans due) (still.now ▸ writable) more
    refine ⟨w', (bind_ok emitted _).trans sent, ⟨?_, ?_⟩, ?_⟩
    · simp only [bench, heard, asks_for]
      exact playing'
    · refine ⟨net', ?_⟩
      simp only [reports_succ, changes, wanted, heard, asks_for]
      exact stands₁.received playing₁.listening _ _ _
    · obtain ⟨later, serial, pending⟩ := sets.pending
      refine ⟨sets.now.trans still.now, still.now ▸ later, serial, ?_⟩
      rw [pending, still.pending]

/-- The timer of the client expires once it has sent all counters. -/
theorem finishes (act : Behaviour κ μ)
    (on : OnCourse timeout (bench timeout echo limit j) (net timeout echo limit j) (.sending n) w)
    (due : w.now = j.timerDue n) (writable : Numeral.isWritable w.now = true) (all : (n : Int) = limit)
    (early : j.timerDue n < timeout) :
    ∃ w', tick (hear act) 3 0 w = .ok () w' ∧ Passed timeout limit j w'.finishEvent ∧
      w'.scheduler.stopped = true ∧ Sets none w w' := by
  obtain ⟨playing, net, stands⟩ := on
  obtain ⟨goes, still, verdict, reason, logged⟩ := stands.bound.done 3
  obtain ⟨told, ticked, changed⟩ :=
    playing.says_done act net.client (decide_eq_true all) goes fun _ => writable
  have count : limit.toNat = n := by omega
  have medium := changed.medium_eq still
  have scheduler : told.scheduler = w.scheduler.stop := by
    rw [changed.scheduler, Answer.scheduler]
    simp only [bench, goes]
  have restored : cut limit n = false := by
    refine decide_eq_false ?_
    omega
  refine ⟨_, ticked, ?_, ?_, ?_⟩
  · refine ⟨by omega, by rwa [count], ⟨_, changed.host, ?_, verdict, reason, count ▸ logged⟩, ?_, ?_,
      ?_, ?_⟩
    · have settled := ((Host.answer_from playing.sound.builtIn 3 Config.standard.keywordDone).settled
        playing.listening).2
      simp only [bench, goes] at settled
      exact settled.1
    · change told.medium.mutations = _
      rw [medium, playing.mutations, count]
      exact stands.mutations
    · change told.scheduler.now = _
      rw [scheduler, count]
      exact due
    · have untouched : (told.putMote 3 ⟨#[.client (clientAfter limit n).finish]⟩).motes.find? 1 =
          some ⟨#[.server n]⟩ := by
        refine (Table.find?_put_of_ne _ _ (by decide)).trans ?_
        rw [changed.motes]
        exact net.server
      change ((told.putMote 3 ⟨#[.client (clientAfter limit n).finish]⟩).motes.find? 1).bind _ = _
      rw [untouched, count]
      rfl
    · change told.medium.link? 1 3 = _
      rw [medium, net.direct, restored]
      rfl
  · change told.scheduler.stopped = true
    rw [scheduler]
    rfl
  · constructor
    · change told.scheduler.now = _
      rw [scheduler]
      rfl
    · change told.scheduler.pending = _
      rw [scheduler]
      rfl

/-- A mote boots. -/
theorem starts (act : Behaviour κ μ) {id : Int} {others : List Int}
    (on : OnCourse timeout (bench timeout echo limit j) (net timeout echo limit j)
      (.booting id others) w)
    (due : w.now = 1333 * id) :
    ∃ w', boot (hear act) id w = .ok () w' ∧
      OnCourse timeout (bench timeout echo limit j) (net timeout echo limit j) (.boots others) w' ∧
      Sets ((Phase.boots others).timer? j) w w' := by
  obtain ⟨playing, order, net⟩ := on
  have shown : Numeral.isWritable 1 = true ∧ Numeral.isWritable 2 = true ∧
      Numeral.isWritable 3 = true := by decide +kernel
  rcases order with ⟨rfl, rfl⟩ | ⟨rfl, rfl⟩ | ⟨rfl, rfl⟩
  · obtain ⟨w', booted, playing', motes, medium, jitter, sets⟩ :=
      playing.boots act shown.1 net.server rfl nofun rfl rfl
    rw [due] at playing'
    exact ⟨w', booted, ⟨playing', .inr (.inl ⟨rfl, rfl⟩), net.aside motes medium jitter⟩, sets⟩
  · obtain ⟨w', booted, playing', motes, medium, jitter, sets⟩ :=
      playing.boots act shown.2.1 net.relay rfl nofun rfl rfl
    rw [due] at playing'
    exact ⟨w', booted, ⟨playing', .inr (.inr ⟨rfl, rfl⟩), net.aside motes medium jitter⟩, sets⟩
  · obtain ⟨w', booted, playing', motes, medium, jitter, sets⟩ :=
      playing.boots act shown.2.2 net.client rfl (fun _ => ⟨rfl, rfl⟩) rfl rfl
    rw [due] at playing' sets
    have straight : cut limit 0 = false := by
      refine decide_eq_false ?_
      omega
    exact ⟨w', booted, ⟨playing', straight ▸ net.aside motes medium jitter, stands_started ..⟩, sets⟩

end Steps

end WeakLink

end MoteTrial
