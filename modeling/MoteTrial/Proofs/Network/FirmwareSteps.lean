import MoteTrial.Proofs.Network.Assembly
import MoteTrial.Proofs.Text.Writable

/-! # What boots and timers do before open listeners

What the listeners make of the lines of the firmware is left open: `Listening` states what is asked of a
property of the world that their side of a run keeps. A boot and the expiry of a timer then keep it too,
and set at most one timer of the same mote, ten seconds later: `Follows`.
-/

namespace MoteTrial

open SimM Simulation

variable {κ μ : Type}

/-- The lines that the firmware of a mote logs. -/
inductive Spoken (id : Int) : String → Prop where
  | started : Spoken id (Numeral.decimal id ++ " " ++ Config.standard.keywordStarted)
  | deteriorate : Spoken id Config.standard.keywordDeteriorate
  | improve : Spoken id Config.standard.keywordImprove
  | done : Spoken id Config.standard.keywordDone
  | received (counter : Nat) (writable : Numeral.isWritable counter = true) :
    Spoken id ("received " ++ Numeral.decimal counter)

namespace World

/-- How far the counter of a client has come. -/
def counterAt (id : Int) (slot : Nat) (w : World κ μ) : Option Nat :=
  (w.clientAt id slot).map Client.counter

/-- The motes have identifiers that can be written, and no client has a blank limit. -/
def Peopled (w : World κ μ) : Prop :=
  ∀ id mote, w.motes.find? id = some mote →
    0 ≤ id ∧ Numeral.isWritable id = true ∧ ∀ slot : Nat, mote.installed[slot]? ≠ some .blankClient

end World

/-- What listeners leave as it was: the motes, the pending events and the clock. -/
structure Beside (w w' : World κ μ) : Prop where
  motes : w'.motes = w.motes
  pending : w'.scheduler.pending = w.scheduler.pending
  now : w'.now = w.now

/-- What is asked of a property of the world for the run of a network to keep it up to the deadline, of
one that holds once the deadline has expired, and of one that holds once a listener has failed. -/
structure Listening (act : Behaviour κ μ) (timeout : Int) (held ended : World κ μ → Prop)
    (bad : Failure → World κ μ → Prop) : Prop where
  standard {w : World κ μ} : held w → w.config = Config.standard
  clock {w : World κ μ} : held w → Numeral.isWritable w.now = true
  moves {w : World κ μ} {a : Appointment (Event κ)} {s : Scheduler (Event κ)} : held w →
    w.scheduler.stopped = false → w.scheduler.Takes a s → w.now ≤ a.due → a.due ≤ timeout →
    held { w with scheduler := s }
  aside {w : World κ μ} : held w → ∀ motes draws jitter (scheduler : Scheduler (Event κ)),
    scheduler.now = w.scheduler.now → scheduler.stopped = w.scheduler.stopped →
    held { w with motes, medium := { w.medium with draws }, jitter, scheduler }
  emits {w : World κ μ} {id : Int} {msg : String} : held w → Spoken id msg → 0 ≤ id →
    Numeral.isWritable id = true →
    Yields (fun _ w' => held w' ∧ Beside w w') bad (emit (hear act) id msg w)
  expires {w : World κ μ} : held w → w.scheduler.stopped = false → w.now = timeout →
    Yields (fun _ w' => ended w'.finishEvent ∧ w'.scheduler.stopped = true ∧
      w'.scheduler.pending = w.scheduler.pending) bad (Host.expire act 0 timeout .builtIn w)

/-- What a part of an event that sends nothing leaves as it was. -/
structure Calm (w w' : World κ μ) : Prop where
  peopled : w.Peopled → w'.Peopled
  counters : ∀ id slot, w'.counterAt id slot = w.counterAt id slot
  pending : w'.scheduler.pending = w.scheduler.pending
  now : w'.now = w.now

/-- What the boot of a mote, or the timer of its client, changes: the counter of the client goes up by
one at most, and its timer may be set again, to a time at least ten seconds later. -/
structure Follows (id : Int) (w w' : World κ μ) : Prop where
  peopled : w'.Peopled
  now : w'.now = w.now
  others : ∀ id' slot, id' ≠ id → w'.counterAt id' slot = w.counterAt id' slot
  own : ∀ slot n, w'.counterAt id slot = some n → 10000 * (n : Int) ≤ w.now + 10000
  pending : w'.scheduler.pending = w.scheduler.pending ∨
    ∃ a slot, a.event = .tick id slot ∧ w.now + 10000 ≤ a.due ∧
      w'.scheduler.pending = Scheduler.insert a w.scheduler.pending

section Calm

variable {w w' w'' : World κ μ} {id : Int} {slot : Nat}

theorem Calm.refl (w : World κ μ) : Calm w w :=
  ⟨fun peopled => peopled, fun _ _ => rfl, rfl, rfl⟩

theorem Calm.trans (first : Calm w w') (second : Calm w' w'') : Calm w w'' where
  peopled := second.peopled ∘ first.peopled
  counters id slot := (second.counters id slot).trans (first.counters id slot)
  pending := second.pending.trans first.pending
  now := second.now.trans first.now

theorem Beside.calm (beside : Beside w w') : Calm w w' where
  peopled peopled := by
    unfold World.Peopled
    rwa [beside.motes]
  counters id slot := by
    rw [World.counterAt, World.counterAt, World.clientAt, World.clientAt, beside.motes]
  pending := beside.pending
  now := beside.now

theorem World.Peopled.set {mote : Mote} {firmware : Firmware} (peopled : w.Peopled)
    (present : w.motes.find? id = some mote) (sound : firmware ≠ .blankClient) :
    (w.putMote id (mote.set slot firmware)).Peopled := by
  intro id' mote' found
  by_cases same : id' = id
  · subst same
    rw [World.putMote, Table.find?_put_self] at found
    cases found
    obtain ⟨nonneg, writable, filled⟩ := peopled id' mote present
    refine ⟨nonneg, writable, ?_⟩
    intro place
    simp only [Mote.set, Array.getElem?_setIfInBounds]
    split
    · split
      · intro same
        exact sound (Option.some.inj same)
      · intro same
        cases same
    · exact filled place
  · rw [World.putMote, Table.find?_put_of_ne _ _ same] at found
    exact peopled id' mote' found

theorem World.Peopled.updateClient (peopled : w.Peopled) (f : Client → Client) :
    (w.updateClient id slot f).Peopled := by
  unfold World.updateClient
  split
  · exact peopled
  · rename_i present
    split
    · exact peopled
    · exact peopled.set present nofun

/-- An update that keeps the counter is calm. -/
theorem Calm.updateClient {f : Client → Client} (keeps : ∀ c, (f c).counter = c.counter) :
    Calm w (w.updateClient id slot f) where
  peopled peopled := peopled.updateClient f
  counters id' slot' := by
    simp only [World.counterAt, World.clientAt_updateClient]
    split
    · rename_i same
      rw [same.1, same.2, Option.map_map]
      congr 1
      exact funext keeps
    · rfl
  pending := by
    obtain ⟨motes, updated⟩ := w.updateClient_keeps id slot f
    rw [updated]
  now := by
    obtain ⟨motes, updated⟩ := w.updateClient_keeps id slot f
    rw [updated]
    rfl

/-- A server that counts a datagram is calm. -/
theorem Calm.count {mote : Mote} {received : Nat} (present : w.motes.find? id = some mote)
    (inUse : mote.firmware? = some (.server received)) :
    Calm w (w.putMote id (mote.set mote.currentSlot (.server (received + 1)))) where
  peopled peopled := peopled.set present nofun
  counters id' slot' := by
    have place := mote.installed_currentSlot.trans inUse
    have size := (Array.getElem?_eq_some_iff.mp place).1
    have unchanged : (mote.set mote.currentSlot (.server (received + 1))).client? slot' =
        mote.client? slot' := by
      rw [Mote.client?_set _ _ _ _ size]
      split
      · rename_i same
        rw [← same, Mote.client?_eq, place]
        rfl
      · rfl
    simp only [World.counterAt, World.clientAt_putMote, unchanged]
    split
    · rename_i same
      rw [same, World.clientAt, present, Option.bind_some]
    · rfl
  pending := rfl
  now := rfl

theorem Follows.calm (follows : Follows id w w') (calm : Calm w' w'') : Follows id w w'' where
  peopled := calm.peopled follows.peopled
  now := calm.now.trans follows.now
  others id' slot other := (calm.counters id' slot).trans (follows.others id' slot other)
  own slot n counter := follows.own slot n ((calm.counters id slot).symm.trans counter)
  pending := by
    rw [calm.pending]
    exact follows.pending

theorem Follows.after (follows : Follows id w' w'') (calm : Calm w w') : Follows id w w'' where
  peopled := follows.peopled
  now := follows.now.trans calm.now
  others id' slot other := (follows.others id' slot other).trans (calm.counters id' slot)
  own slot n counter := by
    rw [← calm.now]
    exact follows.own slot n counter
  pending := by
    rw [← calm.now, ← calm.pending]
    exact follows.pending

theorem Follows.of_calm (peopled : w.Peopled)
    (paced : ∀ place n, w.counterAt id place = some n → 10000 * (n : Int) ≤ w.now)
    (calm : Calm w w') : Follows id w w' where
  peopled := calm.peopled peopled
  now := calm.now
  others id' slot _ := calm.counters id' slot
  own slot n counter := by
    have := paced slot n ((calm.counters id slot).symm.trans counter)
    omega
  pending := .inl calm.pending

/-- The reports of progress are lines of the firmware. -/
theorem Spoken.of_progress? {c : Client} {report : String}
    (progress : c.progress? Config.standard = some report) : Spoken id report := by
  obtain ⟨milestone, -, rfl⟩ := Option.map_eq_some_iff.mp progress
  cases milestone with
  | oneThird => exact .deteriorate
  | twoThirds => exact .improve

end Calm

section Firmware

variable {act : Behaviour κ μ} {timeout : Int} {held ended : World κ μ → Prop}
  {bad : Failure → World κ μ → Prop} {w : World κ μ} {id : Int} {slot : Nat}

theorem Listening.updateClient (listening : Listening act timeout held ended bad) (before : held w)
    (f : Client → Client) : held (w.updateClient id slot f) := by
  obtain ⟨motes, updated⟩ := w.updateClient_keeps id slot f
  rw [updated]
  exact listening.aside before motes w.medium.draws w.jitter w.scheduler rfl rfl

theorem receive_yields (listening : Listening act timeout held ended bad) (before : held w)
    (peopled : w.Peopled) {counter : Nat} (writable : Numeral.isWritable counter = true) :
    Yields (fun _ w' => held w' ∧ Calm w w') bad (receive (hear act) id (.number counter) w) := by
  by_cases server : ∃ mote received, w.motes.find? id = some mote ∧
      mote.firmware? = some (.server received)
  · obtain ⟨mote, received, present, inUse⟩ := server
    obtain ⟨nonneg, shown, _⟩ := peopled id mote present
    have counted := listening.aside before
      (w.motes.put id (mote.set mote.currentSlot (.server (received + 1)))) w.medium.draws w.jitter
      w.scheduler rfl rfl
    rw [receive_server (listening.standard before) present inUse writable]
    refine (listening.emits counted (.received counter writable) nonneg shown).imp ?_ fun _ _ h => h
    rintro _ w' ⟨after, beside⟩
    exact ⟨after, (Calm.count present inUse).trans beside.calm⟩
  · rw [receive_other fun mote present received inUse => server ⟨mote, received, present, inUse⟩]
    exact ⟨before, .refl w⟩

theorem deliver_yields (listening : Listening act timeout held ended bad) (before : held w)
    (peopled : w.Peopled) (route : Route) {counter : Nat}
    (writable : Numeral.isWritable counter = true) :
    Yields (fun _ w' => held w' ∧ Calm w w') bad (deliver (hear act) id route counter w) := by
  rw [deliver_apply]
  split
  · obtain ⟨draws, carried⟩ := w.medium.carry_keeps id route.server
      (route.relay.filter fun relay => w.motes.has relay)
    simp only [carried]
    have drawn := listening.aside before w.motes draws w.jitter w.scheduler rfl rfl
    have calm : Calm w (w.onAir { w.medium with draws }) := ⟨fun h => h, fun _ _ => rfl, rfl, rfl⟩
    split
    · refine (receive_yields listening drawn peopled writable).bind ?_
      rintro _ w' ⟨after, received⟩
      exact ⟨after, calm.trans received⟩
    · exact ⟨drawn, calm⟩
  · exact ⟨before, .refl w⟩

/-- A client sets its timer again. -/
theorem setTimer_yields (listening : Listening act timeout held ended bad) {w' : World κ μ}
    (before : held w') (follows : Follows id w w')
    (unsent : w'.scheduler.pending = w.scheduler.pending) :
    Yields (fun _ w' => held w' ∧ Follows id w w') bad
      ((do schedule (← nextInterval) (.tick id slot) : SimM κ μ Unit) w') := by
  rw [nextInterval_bind_apply (listening.standard before), schedule_apply (by omega)]
  have drawn := listening.aside before w'.motes w'.medium.draws (w'.jitter.next 500).2
    (w'.scheduler.register (w'.now + (10000 + ((w'.jitter.next 500).1 : Int))) (.tick id slot)) rfl rfl
  refine ⟨drawn, follows.peopled, follows.now, follows.others, follows.own, .inr
    ⟨⟨w'.now + (10000 + ((w'.jitter.next 500).1 : Int)), w'.scheduler.issued, .tick id slot⟩, slot,
      rfl, ?_, ?_⟩⟩
  · rw [follows.now]
    simp only
    omega
  · rw [← unsent]
    rfl

/-- A client that sends. -/
theorem sendNext_yields (listening : Listening act timeout held ended bad) (before : held w)
    (peopled : w.Peopled) {c : Client} (there : w.clientAt id slot = some c)
    (paced : ∀ place n, w.counterAt id place = some n → 10000 * (n : Int) ≤ w.now) :
    Yields (fun _ w' => held w' ∧ Follows id w w') bad (sendNext (hear act) id slot w) := by
  have sent := paced slot c.counter (by rw [World.counterAt, there]; rfl)
  have writable := isWritable_next sent (listening.clock before)
  obtain ⟨motes, updated⟩ := w.updateClient_keeps id slot Client.advance
  have advanced : held (w.updateClient id slot Client.advance) := listening.updateClient before _
  have follows : Follows id w (w.updateClient id slot Client.advance) := by
    refine ⟨peopled.updateClient _, by rw [updated]; rfl, ?_, ?_, .inl (by rw [updated])⟩
    · intro id' place other
      rw [World.counterAt, World.clientAt_updateClient, if_neg fun same => other same.1]
      rfl
    · intro place n counter
      rw [World.counterAt, World.clientAt_updateClient] at counter
      split at counter
      · rw [there] at counter
        cases counter
        simp only [Client.advance]
        omega
      · have := paced place n counter
        omega
  rw [sendNext_apply there]
  refine (deliver_yields listening advanced follows.peopled c.route writable).bind ?_
  rintro heard w₂ ⟨delivered, calm⟩
  have followed := follows.calm calm
  have unsent : w₂.scheduler.pending = w.scheduler.pending := by rw [calm.pending, updated]
  cases heard with
  | false => exact setTimer_yields listening delivered followed unsent
  | true =>
    have noted : Calm w₂ (w₂.updateClient id slot Client.confirm) :=
      Calm.updateClient fun _ => rfl
    exact setTimer_yields listening (listening.updateClient delivered _) (followed.calm noted)
      (noted.pending.trans unsent)

/-- The timer of a client expires. -/
theorem tick_yields (listening : Listening act timeout held ended bad) (before : held w)
    (peopled : w.Peopled)
    (paced : ∀ place n, w.counterAt id place = some n → 10000 * (n : Int) ≤ w.now) :
    Yields (fun _ w' => held w' ∧ Follows id w w') bad (tick (hear act) id slot w) := by
  cases there : w.clientAt id slot with
  | none =>
    rw [tick_other there fun mote present => (peopled id mote present).2.2 slot]
    exact ⟨before, .of_calm peopled paced (.refl w)⟩
  | some c =>
    obtain ⟨mote, present, _⟩ := Option.bind_eq_some_iff.mp there
    obtain ⟨nonneg, shown, _⟩ := peopled id mote present
    rw [tick_client (listening.standard before) there]
    split
    · refine (listening.emits before .done nonneg shown).bind ?_
      rintro _ w' ⟨after, beside⟩
      exact ⟨listening.updateClient after Client.finish,
        .of_calm peopled paced (beside.calm.trans (Calm.updateClient fun _ => rfl))⟩
    · cases progress : c.progress? Config.standard with
      | none => exact sendNext_yields listening before peopled there paced
      | some report =>
        refine (listening.emits before (Spoken.of_progress? progress) nonneg shown).bind ?_
        rintro _ w' ⟨after, beside⟩
        have told := beside.calm
        have there' : w'.clientAt id slot = some c := by
          rw [World.clientAt, beside.motes]
          exact there
        have paced' : ∀ place n, w'.counterAt id place = some n → 10000 * (n : Int) ≤ w'.now := by
          intro place n counter
          rw [told.counters] at counter
          rw [told.now]
          exact paced place n counter
        refine (sendNext_yields listening after (told.peopled peopled) there' paced').imp ?_
          fun _ _ h => h
        rintro _ w'' ⟨sent, follows⟩
        exact ⟨sent, follows.after told⟩

/-- A mote boots. -/
theorem boot_yields (listening : Listening act timeout held ended bad) (before : held w)
    (peopled : w.Peopled)
    (paced : ∀ place n, w.counterAt id place = some n → 10000 * (n : Int) ≤ w.now) :
    Yields (fun _ w' => held w' ∧ Follows id w w') bad (boot (hear act) id w) := by
  cases inUse : (w.motes.find? id).bind Mote.firmware? with
  | none =>
    rw [boot_bare inUse]
    exact ⟨before, .of_calm peopled paced (.refl w)⟩
  | some firmware =>
    obtain ⟨mote, present, inUse⟩ := Option.bind_eq_some_iff.mp inUse
    obtain ⟨nonneg, shown, _⟩ := peopled id mote present
    rw [boot_apply (listening.standard before) shown present inUse]
    refine (listening.emits before .started nonneg shown).bind ?_
    rintro _ w' ⟨after, beside⟩
    have follows : Follows id w w' := .of_calm peopled paced beside.calm
    split
    · rw [schedule_apply (by decide)]
      refine ⟨listening.aside after w'.motes w'.medium.draws w'.jitter
        (w'.scheduler.register (w'.now + 600000) (.tick id mote.currentSlot)) rfl rfl,
        follows.peopled, follows.now, follows.others, follows.own, .inr
        ⟨⟨w'.now + 600000, w'.scheduler.issued, .tick id mote.currentSlot⟩, mote.currentSlot, rfl,
          ?_, ?_⟩⟩
      · rw [follows.now]
        simp only
        omega
      · rw [← beside.pending]
        rfl
    · exact ⟨after, follows⟩

end Firmware

end MoteTrial
