import MoteTrial.Proofs.Firmware.Inert
import MoteTrial.Proofs.Firmware.Ledger
import MoteTrial.Proofs.Network.Sending

/-! # What leaves a client alone

Boots, datagrams, the timers of other clients and users' code do nothing to a client. `Stays` says what
it is that they leave: the client, its acts, and the bound on its timers that its boots give.
-/

namespace MoteTrial.Protocol

open SimM Simulation

variable {κ μ : Type}

/-- Whether an event is the timer of the client at a place of a mote. -/
def isTimerOf (id : Int) (slot : Nat) : Event κ → Bool
  | .tick id' slot' => id' = id && slot' = slot
  | _ => false

/-- How many timers of a client are pending. -/
def timers (id : Int) (slot : Nat) (pending : List (Appointment (Event κ))) : Nat :=
  pending.countP fun a => isTimerOf id slot a.event

theorem timers_register (id : Int) (slot : Nat) (due : Int) (event : Event κ) (w : World κ μ) :
    timers id slot (w.register due event).scheduler.pending =
      timers id slot w.scheduler.pending + if isTimerOf id slot event then 1 else 0 := by
  have inserted := Scheduler.insert_perm ⟨due, w.scheduler.issued, event⟩ w.scheduler.pending
  exact (inserted.countP_eq _).trans (List.countP_cons ..)

theorem isTimerOf_iff {id : Int} {slot : Nat} {event : Event κ} :
    isTimerOf id slot event = true ↔ event = .tick id slot := by
  cases event with
  | tick id' slot' => simp [isTimerOf]
  | _ => simp [isTimerOf]

theorem isTimerOf_false {id : Int} {slot : Nat} {event : Event κ} (plain : isTimer event = false) :
    isTimerOf id slot event = false := by
  cases event with
  | tick id' slot' => cases plain
  | _ => rfl

/-- A client has come to a state by the calls of certain acts, and the timers that are pending, and so
many others, have been set by as many boots. -/
structure Stays (config : Config) (id : Int) (slot : Nat) (c : Client) (acts : List Act) (spent : Nat)
    (w : World κ (Diary μ)) : Prop where
  parameters : w.config = config
  client : w.clientAt id slot = some c
  calls : w.memory.calls id slot = acts.map (Act.call config c.route.server)
  timers : timers id slot w.scheduler.pending + spent ≤ w.memory.boots id slot

section Stays

variable {config : Config} {id : Int} {slot : Nat} {c : Client} {acts : List Act} {spent : Nat}
  {w : World κ (Diary μ)} {hear : Hearing κ (Diary μ)}

theorem Stays.of_same (stays : Stays config id slot c acts spent w) {w' : World κ (Diary μ)}
    (same : w'.config = w.config) (client : w'.clientAt id slot = w.clientAt id slot)
    (pending : w'.scheduler.pending = w.scheduler.pending) (memory : w'.memory = w.memory) :
    Stays config id slot c acts spent w' := by
  constructor
  · exact same.trans stays.parameters
  · exact client.trans stays.client
  · rw [memory]
    exact stays.calls
  · rw [pending, memory]
    exact stays.timers

theorem Stays.register (stays : Stays config id slot c acts spent w) (due : Int) {event : Event κ}
    (other : isTimerOf id slot event = false) :
    Stays config id slot c acts spent (w.register due event) := by
  refine ⟨stays.parameters, stays.client, stays.calls, ?_⟩
  rw [timers_register, other]
  exact stays.timers

theorem stays_inert : Inert (Stays (κ := κ) (μ := μ) config id slot c acts spent) where
  same stays parameters motes pending memory := by
    refine stays.of_same parameters ?_ pending memory
    rw [World.clientAt, motes]
    rfl
  registered stays due _ plain := stays.register due (isTimerOf_false plain)

theorem Stays.less {more : Nat} (stays : Stays config id slot c acts (spent + more) w) :
    Stays config id slot c acts spent w := by
  have bound := stays.timers
  exact ⟨stays.parameters, stays.client, stays.calls, by omega⟩

/-- A boot that is interrupted may have set no timer. -/
theorem Upholds.less {α : Type} {more : Nat} {m : SimM κ (Diary μ) α}
    (upholds : Upholds (Stays config id slot c acts (spent + more)) m) :
    Session.Keeps (Stays config id slot c acts (spent + more))
      (fun _ => Stays config id slot c acts spent) m :=
  fun w stays => (upholds w stays).imp (fun _ kept => kept) fun _ _ => Stays.less

/-- The mote of a client may take on other applications. -/
theorem Stays.setMote (stays : Stays config id slot c acts spent w) (id' : Int) (mote : Mote)
    (same : id' = id → mote.client? slot = some c) :
    Stays config id slot c acts spent (w.putMote id' mote) := by
  refine stays.of_same rfl ?_ rfl rfl
  rw [World.clientAt_putMote, stays.client]
  split
  · rename_i here
    exact same here.symm
  · rfl

theorem Stays.found (stays : Stays config id slot c acts spent w) {mote : Mote}
    (there : w.motes.find? id = some mote) : mote.client? slot = some c := by
  have client := stays.client
  rwa [World.clientAt, there] at client

theorem modifyClient_other {id' : Int} {slot' : Nat} (other : (id', slot') ≠ (id, slot))
    (f : Client → Client) :
    Upholds (Stays (κ := κ) (μ := μ) config id slot c acts spent) (modifyClient id' slot' f) := by
  intro w stays
  rw [modifyClient_apply]
  obtain ⟨motes, updated⟩ := w.updateClient_keeps id' slot' f
  refine stays.of_same ?_ ?_ ?_ ?_
  · rw [updated]
  · rw [World.clientAt_updateClient, if_neg]
    rintro ⟨rfl, rfl⟩
    exact other rfl
  · rw [updated]
  · rw [updated]

/-- A server that counts a datagram is not the client. -/
theorem receive_stays
    (speaks : ∀ mote msg, Upholds (Stays config id slot c acts spent) (emit hear mote msg)) (id' : Int)
    (payload : Payload) :
    Upholds (Stays config id slot c acts spent) (receive hear id' payload) := by
  unfold receive
  refine Session.Keeps.seen fun w stays => ?_
  cases found : w.motes.find? id' with
  | none => exact stays
  | some mote =>
    dsimp only
    match inUse : mote.firmware? with
    | some (.server received) =>
      have place := mote.installed_currentSlot.trans inUse
      have size := (Array.getElem?_eq_some_iff.mp place).1
      have counted : Stays config id slot c acts spent
          (w.putMote id' (mote.set mote.currentSlot (.server (received + 1)))) := by
        refine stays.setMote id' _ ?_
        rintro rfl
        rw [Mote.client?_set _ _ _ _ size]
        split
        · rename_i same
          have client := stays.found found
          rw [← same, Mote.client?_eq, place] at client
          cases client
        · exact stays.found found
      refine Session.Kept.bind (I := Stays config id slot c acts spent) counted fun _ => ?_
      exact (Session.Keeps.ofExcept stays_inert.failed _).bind fun _ => speaks _ _
    | none | some .base | some (.client _) | some .blankClient => exact stays

theorem addMote_stays (id' : Int) (firmware : Option Firmware) :
    Upholds (Stays (κ := κ) (μ := μ) config id slot c acts spent) (addMote id' firmware) := by
  refine Session.Keeps.addMote stays_inert.failed fun {w} stays there mote => ?_
  refine stays.setMote id' mote ?_
  rintro rfl
  have client := stays.client
  rw [World.clientAt, Option.bind_eq_some_iff] at client
  obtain ⟨mote, found, _⟩ := client
  rw [Table.has, found] at there
  cases there

/-- A mote that is not there yet is not that of the client. -/
theorem getMote_stays (id' : Int) (w : World κ (Diary μ)) (stays : Stays config id slot c acts spent w) :
    ∃ mote w', getMote id' w = .ok mote w' ∧ Stays config id slot c acts spent w' ∧
      w'.motes.find? id' = some mote := by
  unfold getMote
  rw [get_bind_apply]
  cases found : w.motes.find? id' with
  | some mote => exact ⟨mote, w, rfl, stays, found⟩
  | none =>
    refine ⟨{}, w.putMote id' {}, rfl, stays.setMote id' {} ?_, Table.find?_put_self ..⟩
    rintro rfl
    have client := stays.client
    rw [World.clientAt, found] at client
    cases client

theorem install_stays (id' : Int) (firmware : Firmware) :
    Upholds (Stays (κ := κ) (μ := μ) config id slot c acts spent) (install id' firmware) := by
  intro w stays
  obtain ⟨mote, w', got, stays', found⟩ := getMote_stays id' w stays
  unfold install
  rw [bind_ok got]
  refine stays'.setMote id' _ ?_
  rintro rfl
  have client := stays'.found found
  have size := mote.size_of_client? client
  rw [Mote.client?_eq] at client ⊢
  rw [Mote.install, Array.getElem?_push_lt size, ← Array.getElem?_eq_getElem size]
  exact client

theorem bootAll_stays : Upholds (Stays (κ := κ) (μ := μ) config id slot c acts spent) bootAll :=
  Session.Keeps.bootAll fun _ _ => stays_inert.schedule _ rfl

/-- A timer is set on account of a boot, if it is one of the client. -/
theorem Stays.arms {id' : Int} {slot' : Nat}
    (stays : Stays config id slot c acts (spent + if (id', slot') = (id, slot) then 1 else 0) w)
    (delay : Int) :
    Session.Kept (Stays config id slot c acts spent) (fun _ => Stays config id slot c acts spent)
      (schedule delay (.tick id' slot') w) := by
  have bound := stays.timers
  by_cases negative : delay < 0
  · rw [schedule_past negative]
    exact ⟨stays.parameters, stays.client, stays.calls, by omega⟩
  · rw [schedule_apply (by omega)]
    refine ⟨stays.parameters, stays.client, stays.calls, ?_⟩
    have timer : isTimerOf id slot (.tick id' slot' : Event κ) = decide ((id', slot') = (id, slot)) := by
      simp only [isTimerOf, Prod.mk.injEq, Bool.decide_and]
    rw [timers_register, timer]
    simp only [decide_eq_true_eq]
    change _ ≤ w.memory.boots id slot
    omega

end Stays

/-- Code that leaves the client at a place alone, whatever its state. -/
def Passive (config : Config) (id : Int) (slot : Nat) (act : Behaviour κ (Diary μ)) : Prop :=
  ∀ c acts spent k cue, Upholds (Stays config id slot c acts spent) (act k cue)

section Passive

variable {config : Config} {id : Int} {slot : Nat} {act : Behaviour κ (Diary μ)} {c : Client}
  {acts : List Act} {spent : Nat}

theorem Passive.emit (passive : Passive config id slot act) (mote : Int) (msg : String) :
    Upholds (Stays config id slot c acts spent) (Simulation.emit (hear act) mote msg) :=
  stays_inert.emit (passive c acts spent) mote msg

/-- A boot is noted before it may set a timer. -/
theorem Passive.boot (passive : Passive config id slot act) (id' : Int) :
    Upholds (Stays config id slot c acts spent) (do
      modify (noteBoot id')
      Simulation.boot (hear act) id') := by
  intro w stays
  unfold noteBoot Simulation.boot
  rw [modify_bind_apply, get_bind_apply]
  cases found : w.motes.find? id' with
  | none =>
    simp only [found]
    exact stays
  | some mote =>
    let more : Nat := if (id', mote.currentSlot) = (id, slot) then 1 else 0
    have booted : Stays config id slot c acts (spent + more) { w with
        memory := { w.memory with booted := w.memory.booted ++ [(id', mote.currentSlot)] } } := by
      refine ⟨stays.parameters, stays.client, stays.calls, ?_⟩
      have before := stays.timers
      simp only [Diary.boots, List.count_append, List.count_singleton, beq_iff_eq] at before ⊢
      omega
    simp only [found]
    cases mote.firmware? with
    | none => exact booted.less
    | some firmware =>
      refine Session.Kept.bind (I := Stays config id slot c acts (spent + more)) ?_
        fun text w booted => ?_
      · exact Upholds.less (Session.Keeps.ofExcept stays_inert.failed _) _ booted
      refine Session.Kept.bind (I := Stays config id slot c acts (spent + more)) ?_
        fun _ w booted => ?_
      · exact Upholds.less (passive.emit _ _) w booted
      cases firmware with
      | client _ | blankClient => exact booted.arms _
      | base | server _ => exact booted.less

theorem Program.noting_passive (passive : Passive config id slot act) (p : Program κ μ) :
    Upholds (Stays config id slot c acts spent) (p.noting.exec act) := by
  induction p with
  | answer done => exact Session.Keeps.pure done
  | raise f => exact Session.Keeps.fails stays_inert.failed f
  | schedule delay event next ih => exact (stays_inert.schedule delay event.property).bind fun _ => ih
  | scheduleAt time event next ih => exact (stays_inert.scheduleAt time event.property).bind fun _ => ih
  | stop next ih => exact stays_inert.stop.bind fun _ => ih
  | log mote msg next ih => exact (passive.emit mote msg).bind fun _ => ih
  | boot mote next ih =>
    unfold Program.noting Program.exec
    rw [altered_noteBoot]
    intro w stays
    rw [modify_bind_apply]
    exact Session.Kept.bind (passive.boot mote w stays) fun _ => ih
  | bootAll next ih => exact bootAll_stays.bind fun _ => ih
  | receive mote payload next ih =>
    exact (receive_stays passive.emit mote payload).bind fun _ => ih
  | addMote id firmware next ih => exact (addMote_stays id firmware).bind fun _ => ih
  | install id firmware next ih => exact (install_stays id firmware).bind fun _ => ih
  | start host next ih => exact (stays_inert.start (passive c acts spent) host).bind fun _ => ih
  | registerDeadline host after action next ih =>
    exact (stays_inert.registerDeadline host after action).bind fun _ => ih
  | alter change next ih =>
    refine Session.Keeps.bind (Session.Keeps.modify fun stays => ?_) fun _ => ih
    exact ⟨stays.parameters, stays.client, stays.calls, stays.timers⟩
  | consult next ih => exact Session.Keeps.reads fun w => ih (forget w)

/-- By induction on how deep users' code sets off other code. -/
theorem behaviourNoting_passive (code : κ → Cue → Program κ μ) (limit : Nat) :
    Passive config id slot (behaviourNoting code limit) := by
  induction limit with
  | zero => exact fun _ _ _ _ _ _ stays => stays
  | succ limit ih => exact fun _ _ _ c cue => Program.noting_passive ih (code c cue)

section Others

variable {id' : Int} {slot' : Nat}

theorem Stays.noteCall_other {w : World κ (Diary μ)} (stays : Stays config id slot c acts spent w)
    (other : (id', slot') ≠ (id, slot)) (call : Call) :
    Stays config id slot c acts spent (noteCall id' slot' call w) :=
  ⟨stays.parameters, stays.client, (calls_noteCall_of_ne other call w).trans stays.calls, stays.timers⟩

theorem calling_other (other : (id', slot') ≠ (id, slot)) (call : Bool → Call)
    {m : SimM κ (Diary μ) Unit} (part : Upholds (Stays config id slot c acts spent) m) :
    Upholds (Stays config id slot c acts spent) (calling id' slot' call m) := by
  intro w stays
  have kept := part w stays
  unfold calling
  cases ran : m w with
  | ok _ w' =>
    rw [ran] at kept
    exact kept.noteCall_other other _
  | error i w' =>
    rw [ran] at kept
    exact kept.noteCall_other other _

theorem attempt_other (passive : Passive config id slot act) (other : (id', slot') ≠ (id, slot))
    (route : Route) (counter : Nat) :
    Upholds (Stays config id slot c acts spent) (attemptNoting (hear act) slot' id' route counter) := by
  have hands : Upholds (Stays config id slot c acts spent) (do
      handNoting (hear act) slot' id' route.server (.number counter)
      return true : SimM κ (Diary μ) Bool) :=
    (calling_other other _ (receive_stays passive.emit _ _)).bind fun _ => Session.Keeps.pure true
  have notes : Upholds (Stays (κ := κ) (μ := μ) config id slot c acts spent)
      (modify (noteCall id' slot' (.attempt counter))) :=
    Session.Keeps.modify fun stays => stays.noteCall_other other _
  unfold attemptNoting deliverBy
  refine notes.bind fun _ => Session.Keeps.reads fun w => ?_
  split
  · exact Session.Keeps.pure _
  · refine (stays_inert.transmit _ _).bind fun heard => ?_
    split
    · exact hands
    · split
      · exact Session.Keeps.pure _
      · refine Session.Keeps.reads fun w => ?_
        split
        · exact Session.Keeps.pure _
        · refine (stays_inert.transmitVia _ _ _).bind fun heard => ?_
          split
          · exact hands
          · exact Session.Keeps.pure _

/-- The timer of another client. -/
theorem tick_other (passive : Passive config id slot act) (other : (id', slot') ≠ (id, slot)) :
    Upholds (Stays config id slot c acts spent) (fireNoting act (.tick id' slot')) := by
  have logs (msg : String) :
      Upholds (Stays config id slot c acts spent) (logNoting (hear act) slot' id' msg) :=
    calling_other other _ (passive.emit _ _)
  have arms (delay : Int) : Upholds (Stays (κ := κ) (μ := μ) config id slot c acts spent)
      (schedule delay (.tick id' slot')) := by
    intro w stays
    refine Stays.arms ?_ delay
    rwa [if_neg other]
  have sends : Upholds (Stays config id slot c acts spent)
      (sendNextBy (attemptNoting (hear act) slot') id' slot') := by
    unfold sendNextBy
    refine (modifyClient_other other _).bind fun _ => Session.Keeps.bind (fun _ stays => stays) ?_
    intro client
    split
    · exact Session.Keeps.pure _
    · refine (attempt_other passive other _ _).bind fun heard => ?_
      have rearms : Upholds (Stays (κ := κ) (μ := μ) config id slot c acts spent) (do
          schedule (← nextInterval) (.tick id' slot')) := stays_inert.nextInterval.bind arms
      split
      · exact (modifyClient_other other _).bind fun _ => rearms
      · exact rearms
  change Upholds _ (tickBy (logNoting (hear act) slot') (attemptNoting (hear act) slot') id' slot')
  unfold tickBy
  refine Session.Keeps.bind (fun _ stays => stays) fun firmware => ?_
  split
  · exact Session.Keeps.pure _
  · exact Session.Keeps.pure _
  · exact Session.Keeps.pure _
  · exact Session.Keeps.fails stays_inert.failed _
  · split
    · refine Session.Keeps.reads fun w => ?_
      exact (logs _).bind fun _ => modifyClient_other other _
    · refine Session.Keeps.reads fun w => ?_
      split
      · exact sends
      · exact (logs _).bind fun _ => sends

end Others

/-- Every event but the timer of the client leaves it alone. -/
theorem fire_stays (passive : Passive config id slot act) {event : Event κ}
    (other : isTimerOf id slot event = false) :
    Upholds (Stays config id slot c acts spent) (fireNoting act event) := by
  cases event with
  | boot mote => exact passive.boot mote
  | tick id' slot' =>
    refine tick_other passive ?_
    rintro ⟨⟩
    simp [isTimerOf] at other
  | line mote msg => exact passive.emit mote msg
  | expire h after action => exact stays_inert.expire (passive c acts spent) h after action
  | task k => exact (passive c acts spent k .due).bind fun _ => Session.Keeps.pure _

end Passive

end MoteTrial.Protocol
