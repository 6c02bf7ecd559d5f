import MoteTrial.Proofs.Client.Course
import MoteTrial.Proofs.Network.Sending
import MoteTrial.Proofs.Text.FirmwareLines

/-! # A client and its server in a test

Mote 3 runs a client that sends to the server on mote 1. What a test makes of one counter of the
client, whether the server receives it, `Playing.sends_heard`, or not, `Playing.sends_lost`.
-/

namespace MoteTrial

open SimM Simulation

variable {κ μ : Type}

/-- The way that a counter of the client takes. -/
def World.carried (c : Client) (w : World κ μ) : Bool × Medium :=
  w.medium.carry 3 1 (c.route.relay.filter fun relay => w.motes.has relay)

/-- What has changed once the client has sent a counter and set its timer again. -/
structure Sent (heard : Bool) (c : Client) (received : Nat) (w w' : World κ μ) : Prop where
  client : w'.motes.find? 3 = some ⟨#[.client (if heard then c.advance.confirm else c.advance)]⟩
  server : w'.motes.find? 1 = some ⟨#[.server (if heard then received + 1 else received)]⟩
  others : ∀ id, id ≠ 1 → id ≠ 3 → w'.motes.find? id = w.motes.find? id
  medium : w'.medium = (w.carried c).2
  jitter : w'.jitter = (w.jitter.next 500).2
  sets : Sets (some (w.now + (10000 + ((w.jitter.next 500).1 : Int)))) w w'

section Lone

variable {act : Behaviour κ μ} {timeout : Int} {b : Bench κ} {w w' : World κ μ} {id : Int}
  {c : Client} {received : Nat}

theorem World.clientAt_lone (client : w.motes.find? id = some ⟨#[.client c]⟩) :
    w.clientAt id 0 = some c := by
  rw [clientAt, client]
  rfl

theorem World.updateClient_lone (client : w.motes.find? id = some ⟨#[.client c]⟩)
    (f : Client → Client) : w.updateClient id 0 f = w.putMote id ⟨#[.client (f c)]⟩ := by
  have place : Mote.client? ⟨#[.client c]⟩ 0 = some c := rfl
  unfold updateClient
  simp only [client, place]
  rfl

/-- What a test does not mind: motes, draws, delays and pending events. -/
theorem Playing.aside (playing : Playing timeout b w) (motes : Table Int Mote) (draws : Random.Draws)
    (jitter : Random.Jitter) (scheduler : Scheduler (Event κ))
    (stopped : scheduler.stopped = w.scheduler.stopped) :
    Playing timeout b { w with motes, medium := { w.medium with draws }, jitter, scheduler } :=
  ⟨playing.standard, playing.silent, playing.listeners, stopped.trans playing.running, playing.host,
    playing.mutations, playing.sound, playing.listening⟩

theorem Playing.putMote (playing : Playing timeout b w) (id : Int) (mote : Mote) :
    Playing timeout b (w.putMote id mote) :=
  playing.aside _ w.medium.draws w.jitter w.scheduler rfl

/-- The world once the client has set its timer. -/
def World.timed (w : World κ μ) : World κ μ :=
  { w with jitter := (w.jitter.next 500).2 }.register (w.now + (10000 + ((w.jitter.next 500).1 : Int)))
    (.tick 3 0)

theorem Playing.timed (playing : Playing timeout b w) : Playing timeout b w.timed :=
  playing.aside w.motes w.medium.draws _ _ rfl

theorem setTimer_apply (standard : w.config = Config.standard) :
    (do schedule (← nextInterval) (.tick 3 0) : SimM κ μ Unit) w = .ok () w.timed := by
  rw [nextInterval_bind_apply standard]
  exact schedule_apply (by omega) _ _

theorem World.has_putMote {mote : Mote} (present : w.motes.find? id = some mote) (mote' : Mote)
    (id' : Int) : (w.putMote id mote').motes.has id' = w.motes.has id' := by
  unfold Table.has
  by_cases same : id' = id
  · subst same
    rw [World.putMote, Table.find?_put_self, present]
    rfl
  · rw [World.putMote, Table.find?_put_of_ne _ _ same]

/-- The client has put its next counter on the air. -/
theorem sendNext_lone {hear : Hearing κ μ} (client : w.motes.find? 3 = some ⟨#[.client c]⟩)
    (route : c.route.server = 1) (server : w.motes.find? 1 = some ⟨#[.server received]⟩) :
    sendNext hear 3 0 w =
      (do if (w.carried c).1 then
            receive hear 1 (.number (c.counter + 1 : Nat))
            modifyClient 3 0 Client.confirm
          schedule (← nextInterval) (.tick 3 0) : SimM κ μ Unit)
        ((w.putMote 3 ⟨#[.client c.advance]⟩).onAir (w.carried c).2) := by
  have known : (w.putMote 3 ⟨#[.client c.advance]⟩).motes.has 1 = true := by
    rw [World.has_putMote client, Table.has, server]
    rfl
  have relays : (c.route.relay.filter fun relay =>
      (w.putMote 3 ⟨#[.client c.advance]⟩).motes.has relay) =
        c.route.relay.filter fun relay => w.motes.has relay := by
    simp only [World.has_putMote client]
  rw [sendNext_apply (World.clientAt_lone client), World.updateClient_lone client]
  have delivered : deliver hear 3 c.route (c.counter + 1) (w.putMote 3 ⟨#[.client c.advance]⟩) =
      (if (w.carried c).1 then do
          receive hear 1 (.number (c.counter + 1 : Nat))
          return true
        else return false : SimM κ μ Bool)
        ((w.putMote 3 ⟨#[.client c.advance]⟩).onAir (w.carried c).2) := by
    rw [deliver_apply, route, if_pos known, relays]
    rfl
  refine (bind_same delivered _).trans ?_
  cases (w.carried c).1 with
  | false => rfl
  | true => simp only [↓reduceIte, bind_assoc, pure_bind]

/-- A counter that the server does not receive. -/
theorem Playing.sends_lost (playing : Playing timeout b w) (act : Behaviour κ μ)
    (client : w.motes.find? 3 = some ⟨#[.client c]⟩) (route : c.route.server = 1)
    (server : w.motes.find? 1 = some ⟨#[.server received]⟩) (lost : (w.carried c).1 = false) :
    ∃ w', sendNext (hear act) 3 0 w = .ok () w' ∧ Playing timeout b w' ∧
      Sent false c received w w' := by
  obtain ⟨draws, carried⟩ := w.medium.carry_keeps 3 1
    (c.route.relay.filter fun relay => w.motes.has relay)
  have air : (w.carried c).2 = { w.medium with draws } := carried
  have set := setTimer_apply
    (w := (w.putMote 3 ⟨#[.client c.advance]⟩).onAir (w.carried c).2) playing.standard
  rw [sendNext_lone client route server]
  simp only [lost, Bool.false_eq_true, ↓reduceIte]
  refine ⟨_, set, ?_, ?_⟩
  · rw [air]
    exact (playing.aside _ draws w.jitter w.scheduler rfl).timed
  · constructor
    · exact Table.find?_put_self ..
    · exact (Table.find?_put_of_ne _ _ (by decide)).trans server
    · intro id _ other
      exact Table.find?_put_of_ne _ _ other
    · rfl
    · rfl
    · exact ⟨rfl, by omega, _, rfl⟩

/-- A counter that is too long to be written reaches the server, which counts it and fails. -/
theorem sendNext_unwritable {hear : Hearing κ μ} (client : w.motes.find? 3 = some ⟨#[.client c]⟩)
    (route : c.route.server = 1) (server : w.motes.find? 1 = some ⟨#[.server received]⟩)
    (heard : (w.carried c).1 = true) (long : Numeral.isWritable (c.counter + 1 : Nat) = false) :
    sendNext hear 3 0 w = .error (.failure .unwritableInteger)
      (((w.putMote 3 ⟨#[.client c.advance]⟩).onAir (w.carried c).2).putMote 1
        ⟨#[.server (received + 1)]⟩) := by
  have there : ((w.putMote 3 ⟨#[.client c.advance]⟩).onAir (w.carried c).2).motes.find? 1 =
      some ⟨#[.server received]⟩ := (Table.find?_put_of_ne _ _ (by decide)).trans server
  rw [sendNext_lone client route server]
  simp only [heard, ↓reduceIte]
  exact bind_error (receive_unwritable there rfl long) _

/-- A line after which the test goes on and no link is changed. -/
theorem Playing.reports (playing : Playing timeout b w) (act : Behaviour κ μ) (mote : Int)
    (msg : String)
    (more : (b.host.answer mote msg).outcome = .ok false)
    (still : (b.host.answer mote msg).change? = none) :
    ∃ w', emit (hear act) mote msg w = .ok () w' ∧ Playing timeout (b.hear ⟨w.now, mote, msg⟩) w' ∧
      w'.motes = w.motes ∧ w'.medium = w.medium ∧ w'.jitter = w.jitter ∧
      w'.scheduler = w.scheduler := by
  obtain ⟨w', emitted, heard⟩ := playing.emit_apply act mote msg fun dated =>
    absurd ⟨more, still⟩ dated
  rw [more] at emitted
  exact ⟨w', emitted, playing.after heard more, heard.motes, heard.medium_eq still, heard.jitter,
    heard.scheduler_eq more⟩

/-- The server receives a number and reports it. -/
theorem Playing.receives (playing : Playing timeout b w) (act : Behaviour κ μ)
    (server : w.motes.find? 1 = some ⟨#[.server received]⟩) {n : Nat}
    (shown : Numeral.isWritable n = true)
    (more : (b.host.answer 1 ("received " ++ Numeral.decimal n)).outcome = .ok false)
    (still : (b.host.answer 1 ("received " ++ Numeral.decimal n)).change? = none) :
    ∃ w', receive (hear act) 1 (.number n) w = .ok () w' ∧
      Playing timeout (b.hear ⟨w.now, 1, "received " ++ Numeral.decimal n⟩) w' ∧
      w'.motes = w.motes.put 1 ⟨#[.server (received + 1)]⟩ ∧ w'.medium = w.medium ∧
      w'.jitter = w.jitter ∧ w'.scheduler = w.scheduler := by
  obtain ⟨w', emitted, facts⟩ :=
    (playing.putMote 1 ⟨#[.server (received + 1)]⟩).reports act 1 _ more still
  exact ⟨w', (receive_server playing.standard server rfl shown).trans emitted, facts⟩

/-- A counter that the server receives and reports. -/
theorem Playing.sends_heard (playing : Playing timeout b w) (act : Behaviour κ μ)
    (client : w.motes.find? 3 = some ⟨#[.client c]⟩) (route : c.route.server = 1)
    (server : w.motes.find? 1 = some ⟨#[.server received]⟩) (heard : (w.carried c).1 = true)
    (shown : Numeral.isWritable (c.counter + 1 : Nat) = true)
    (more : (b.host.answer 1 ("received " ++ Numeral.decimal (c.counter + 1 : Nat))).outcome = .ok false)
    (still : (b.host.answer 1 ("received " ++ Numeral.decimal (c.counter + 1 : Nat))).change? = none) :
    ∃ w', sendNext (hear act) 3 0 w = .ok () w' ∧
      Playing timeout (b.hear ⟨w.now, 1, "received " ++ Numeral.decimal (c.counter + 1 : Nat)⟩) w' ∧
      Sent true c received w w' := by
  obtain ⟨draws, carried⟩ := w.medium.carry_keeps 3 1
    (c.route.relay.filter fun relay => w.motes.has relay)
  have air : (w.carried c).2 = { w.medium with draws } := carried
  let flown := (w.putMote 3 ⟨#[.client c.advance]⟩).onAir (w.carried c).2
  have flying : Playing timeout b flown := by
    simp only [flown, air]
    exact playing.aside _ draws w.jitter w.scheduler rfl
  have there : flown.motes.find? 1 = some ⟨#[.server received]⟩ :=
    (Table.find?_put_of_ne _ _ (by decide)).trans server
  obtain ⟨told, receives, further, motes, medium, jitter, scheduler⟩ :=
    flying.receives act there shown more still
  have advanced : told.motes.find? 3 = some ⟨#[.client c.advance]⟩ := by
    rw [motes]
    exact (Table.find?_put_of_ne _ _ (by decide)).trans (Table.find?_put_self ..)
  have now : told.now = w.now := by
    rw [World.now, scheduler]
    rfl
  have set := setTimer_apply (w := told.putMote 3 ⟨#[.client c.advance.confirm]⟩) further.standard
  refine ⟨(told.putMote 3 ⟨#[.client c.advance.confirm]⟩).timed, ?_, ?_, ?_⟩
  · rw [sendNext_lone client route server]
    simp only [heard, ↓reduceIte]
    rw [bind_ok receives, bind_ok (modifyClient_apply _), World.updateClient_lone advanced]
    exact set
  · exact (further.putMote 3 _).timed
  · constructor
    · exact Table.find?_put_self ..
    · change (told.motes.put 3 _).find? 1 = _
      rw [motes]
      exact (Table.find?_put_of_ne _ _ (by decide)).trans (Table.find?_put_self ..)
    · intro id first third
      change (told.motes.put 3 _).find? id = _
      rw [motes]
      exact (Table.find?_put_of_ne _ _ third).trans
        ((Table.find?_put_of_ne _ _ first).trans (Table.find?_put_of_ne _ _ third))
    · exact medium
    · change (told.jitter.next 500).2 = _
      rw [jitter]
      rfl
    · refine ⟨now, by omega, w.scheduler.issued, ?_⟩
      change Scheduler.insert ⟨told.now + (10000 + ((told.jitter.next 500).1 : Int)),
        told.scheduler.issued, _⟩ told.scheduler.pending = _
      rw [now, jitter, scheduler]
      rfl

/-- A client that has sent all counters says so, and its timer is not set again. -/
theorem Playing.says_done (playing : Playing timeout b w) (act : Behaviour κ μ)
    (client : w.motes.find? 3 = some ⟨#[.client c]⟩) (exhausted : c.exhausted = true) {ends : Bool}
    (outcome : (b.host.answer 3 Config.standard.keywordDone).outcome = .ok ends)
    (dated : ¬ (b.host.answer 3 Config.standard.keywordDone).Quiet →
      Numeral.isWritable w.now = true) :
    ∃ told, tick (hear act) 3 0 w = .ok () (told.putMote 3 ⟨#[.client c.finish]⟩) ∧
      Heard 0 (b.host.answer 3 Config.standard.keywordDone) w told := by
  obtain ⟨told, emitted, heard⟩ := playing.emit_apply act 3 Config.standard.keywordDone dated
  rw [outcome] at emitted
  have there : told.motes.find? 3 = some ⟨#[.client c]⟩ := by
    rw [heard.motes]
    exact client
  refine ⟨told, ?_, heard⟩
  rw [tick_client playing.standard (World.clientAt_lone client), exhausted]
  simp only [↓reduceIte]
  rw [bind_ok emitted, modifyClient_apply, World.updateClient_lone there]

/-- A mote boots; if it is mote 3 with the client, its timer is set. -/
theorem Playing.boots (playing : Playing timeout b w) (act : Behaviour κ μ)
    (shown : Numeral.isWritable id = true) {mote : Mote}
    (present : w.motes.find? id = some mote) {firmware : Firmware}
    (inUse : mote.firmware? = some firmware)
    (lone : firmware.isClient = true → id = 3 ∧ mote.currentSlot = 0)
    (more : (b.host.answer id (Numeral.decimal id ++ " started")).outcome = .ok false)
    (still : (b.host.answer id (Numeral.decimal id ++ " started")).change? = none) :
    ∃ w', boot (hear act) id w = .ok () w' ∧
      Playing timeout (b.hear ⟨w.now, id, Numeral.decimal id ++ " started"⟩) w' ∧
      w'.motes = w.motes ∧ w'.medium = w.medium ∧ w'.jitter = w.jitter ∧
      Sets (if firmware.isClient then some (w.now + 600000) else none) w w' := by
  obtain ⟨told, emitted, further, motes, medium, jitter, scheduler⟩ :=
    playing.reports act id (Numeral.decimal id ++ " started") more still
  have now : told.now = w.now := by
    rw [World.now, scheduler]
    rfl
  have reported : emit (hear act) id (Numeral.decimal id ++ " " ++ Config.standard.keywordStarted) w =
      .ok () told := by
    rw [String.append_assoc]
    exact emitted
  rw [boot_apply playing.standard shown present inUse, bind_ok reported]
  cases client : firmware.isClient with
  | false =>
    refine ⟨told, rfl, further, motes, medium, jitter, now, ?_⟩
    simp only [Bool.false_eq_true, ↓reduceIte]
    rw [scheduler]
  | true =>
    obtain ⟨rfl, slot⟩ := lone client
    simp only [↓reduceIte, slot]
    refine ⟨_, schedule_apply (by decide) _ told, ?_, motes, medium, jitter, now, by omega,
      w.scheduler.issued, ?_⟩
    · exact further.aside told.motes told.medium.draws told.jitter _ rfl
    · change Scheduler.insert ⟨told.now + 600000, told.scheduler.issued, _⟩
        told.scheduler.pending = _
      rw [now, scheduler]

end Lone

end MoteTrial
