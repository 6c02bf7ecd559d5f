import MoteTrial.Proofs.Execution
import MoteTrial.Proofs.RadioLink

/-! # What firmware does when it boots, sends and receives

One equation for each operation of the firmware, in terms of the clients that are installed on motes
and of the medium. `Medium.carry` is the way of a datagram over the direct link or by way of the
relay.
-/

namespace MoteTrial

open SimM Simulation

variable {κ μ : Type}

namespace Medium

/-- The way of a datagram: over the direct link, or else by way of the relay if there is one. -/
def carry (source target : Int) (relay : Option Int) (m : Medium) : Bool × Medium :=
  let direct := m.transmit source target
  if direct.1 then direct
  else match relay with
    | none => (false, direct.2)
    | some relay =>
      let first := direct.2.transmit source relay
      if first.1 then first.2.transmit relay target else (false, first.2)

/-- Without a relay there is but one frame. -/
theorem carry_direct (source target : Int) (m : Medium) :
    m.carry source target none = m.transmit source target := by
  unfold carry
  cases m.transmit source target with
  | mk heard after => cases heard <;> rfl

/-- A frame takes draws and leaves the links and the changes as they are. -/
theorem transmit_keeps (source target : Int) (m : Medium) :
    ∃ draws, (m.transmit source target).2 = { m with draws } := by
  unfold transmit
  split
  · exact ⟨m.draws, rfl⟩
  · split
    · exact ⟨m.draws, rfl⟩
    · exact ⟨m.draws.next.2, rfl⟩

theorem carry_keeps (source target : Int) (relay : Option Int) (m : Medium) :
    ∃ draws, (m.carry source target relay).2 = { m with draws } := by
  obtain ⟨draws, direct⟩ := m.transmit_keeps source target
  unfold carry
  simp only
  split
  · exact ⟨draws, direct⟩
  · split
    · exact ⟨draws, direct⟩
    · rename_i relay
      obtain ⟨draws', first⟩ := (m.transmit source target).2.transmit_keeps source relay
      split
      · obtain ⟨draws'', second⟩ :=
          ((m.transmit source target).2.transmit source relay).2.transmit_keeps relay target
        exact ⟨draws'', by rw [second, first, direct]⟩
      · exact ⟨draws', by rw [first, direct]⟩

end Medium

/-- The client that an application is, if it is one. -/
def Firmware.client? : Firmware → Option Client
  | .client c => some c
  | _ => none

/-- Whether an application has a timer. -/
def Firmware.isClient : Firmware → Bool
  | .client _ | .blankClient => true
  | _ => false

namespace World

/-- The client at a place of a mote. -/
def clientAt (id : Int) (slot : Nat) (w : World κ μ) : Option Client :=
  (w.motes.find? id).bind (·.client? slot)

/-- The world with another state of a mote. -/
def putMote (id : Int) (mote : Mote) (w : World κ μ) : World κ μ :=
  { w with motes := w.motes.put id mote }

/-- The world with another state of a client, if the client is there. -/
def updateClient (id : Int) (slot : Nat) (f : Client → Client) (w : World κ μ) : World κ μ :=
  match w.motes.find? id with
  | none => w
  | some mote =>
    match mote.client? slot with
    | none => w
    | some c => w.putMote id (mote.set slot (.client (f c)))

/-- The world with another medium. -/
def onAir (medium : Medium) (w : World κ μ) : World κ μ := { w with medium }

end World

section Clients

variable {w : World κ μ} {id : Int} {slot : Nat} {mote : Mote} {c : Client}

theorem Mote.client?_eq (mote : Mote) (slot : Nat) :
    mote.client? slot = mote.installed[slot]?.bind Firmware.client? := by
  unfold Mote.client?
  split
  · rename_i c shape
    rw [shape]
    rfl
  · rename_i other
    cases installed : mote.installed[slot]? with
    | none => rfl
    | some firmware =>
      cases firmware with
      | client c => exact (other c installed).elim
      | _ => rfl

theorem Mote.client?_eq_some (mote : Mote) (slot : Nat) :
    mote.client? slot = some c ↔ mote.installed[slot]? = some (.client c) := by
  rw [Mote.client?_eq, Option.bind_eq_some_iff]
  constructor
  · rintro ⟨firmware, place, isClient⟩
    cases firmware with
    | client c' =>
      cases isClient
      exact place
    | base | server _ | blankClient => cases isClient
  · exact fun place => ⟨_, place, rfl⟩

/-- A client is at a place of a mote if it is what is installed there. -/
theorem World.clientAt_eq_some : w.clientAt id slot = some c ↔
    (w.motes.find? id).bind (·.installed[slot]?) = some (.client c) := by
  simp only [World.clientAt, Option.bind_eq_some_iff, Mote.client?_eq_some]

theorem Mote.installed_currentSlot (mote : Mote) :
    mote.installed[mote.currentSlot]? = mote.firmware? :=
  Array.back?_eq_getElem?.symm

theorem Mote.size_of_client? (mote : Mote) (found : mote.client? slot = some c) :
    slot < mote.installed.size := by
  rw [Mote.client?_eq] at found
  obtain ⟨firmware, installed, _⟩ := Option.bind_eq_some_iff.mp found
  exact (Array.getElem?_eq_some_iff.mp installed).1

theorem Mote.client?_set (mote : Mote) (slot other : Nat) (firmware : Firmware)
    (there : slot < mote.installed.size) :
    (mote.set slot firmware).client? other =
      if slot = other then firmware.client? else mote.client? other := by
  simp only [Mote.client?_eq, Mote.set, Array.getElem?_setIfInBounds, there, ↓reduceIte]
  split <;> rfl

theorem World.clientAt_putMote (id' : Int) (slot' : Nat) :
    (w.putMote id mote).clientAt id' slot' =
      if id' = id then mote.client? slot' else w.clientAt id' slot' := by
  unfold World.clientAt World.putMote
  split
  · rename_i same
    rw [same, Table.find?_put_self, Option.bind_some]
  · rename_i other
    rw [Table.find?_put_of_ne _ _ other]

theorem World.clientAt_updateClient (f : Client → Client) (id' : Int) (slot' : Nat) :
    (w.updateClient id slot f).clientAt id' slot' =
      if id' = id ∧ slot' = slot then (w.clientAt id slot).map f else w.clientAt id' slot' := by
  by_cases here : id' = id ∧ slot' = slot
  · obtain ⟨rfl, rfl⟩ := here
    simp only [and_self, ↓reduceIte, World.updateClient]
    cases found : w.motes.find? id' with
    | none => simp only [World.clientAt, found, Option.bind_none, Option.map_none]
    | some mote =>
      simp only [World.clientAt, found, Option.bind_some]
      cases installed : mote.client? slot' with
      | none => simp only [found, Option.bind_some, installed, Option.map_none]
      | some c =>
        have there := mote.size_of_client? installed
        simp only [World.putMote, Table.find?_put_self, Option.bind_some,
          Mote.client?_set _ _ _ _ there, ↓reduceIte, Firmware.client?, Option.map_some]
  · rw [if_neg here]
    unfold World.updateClient
    split
    · rfl
    · rename_i mote found
      split
      · rfl
      · rename_i c installed
        rw [World.clientAt_putMote, Mote.client?_set _ _ _ _ (mote.size_of_client? installed)]
        split
        · rename_i same
          rw [if_neg fun slots => here ⟨same, slots.symm⟩, same, World.clientAt, found,
            Option.bind_some]
        · rfl

theorem World.updateClient_keeps (id : Int) (slot : Nat) (f : Client → Client) (w : World κ μ) :
    ∃ motes, w.updateClient id slot f = { w with motes } := by
  unfold World.updateClient
  split
  · exact ⟨w.motes, rfl⟩
  · split
    · exact ⟨w.motes, rfl⟩
    · exact ⟨_, rfl⟩

theorem modifyClient_apply (f : Client → Client) :
    modifyClient id slot f w = .ok () (w.updateClient id slot f) := rfl

theorem client?_bind_apply {α : Type} (f : Option Client → SimM κ μ α) :
    (client? id slot >>= f) w = f (w.clientAt id slot) w := rfl

theorem transmit_bind_apply {α : Type} (a b : Int) (f : Bool → SimM κ μ α) :
    (transmit a b >>= f) w = f (w.medium.transmit a b).1 (w.onAir (w.medium.transmit a b).2) := rfl

end Clients

section Operations

variable {w : World κ μ} {hear : Hearing κ μ} {id : Int} {slot : Nat} {mote : Mote} {c : Client}

theorem transmitVia_bind_apply {α : Type} (a relay b : Int) (f : Bool → SimM κ μ α) :
    (transmitVia a relay b >>= f) w =
      let first := w.medium.transmit a relay
      let both := if first.1 then first.2.transmit relay b else (false, first.2)
      f both.1 (w.onAir both.2) := by
  have run : transmitVia a relay b w =
      let first := w.medium.transmit a relay
      let both := if first.1 then first.2.transmit relay b else (false, first.2)
      .ok both.1 (w.onAir both.2) := by
    unfold transmitVia
    rw [transmit_bind_apply]
    cases heard : (w.medium.transmit a relay).1 with
    | false => simp only [heard, Bool.false_eq_true, ↓reduceIte, pure_apply]
    | true =>
      simp only [heard, ↓reduceIte]
      rfl
  exact bind_ok run f

/-- A datagram takes its way; where it arrives, the server receives it. -/
theorem deliver_apply (route : Route) (counter : Nat) :
    deliver hear id route counter w =
      if w.motes.has route.server then
        let carried := w.medium.carry id route.server (route.relay.filter fun relay => w.motes.has relay)
        (if carried.1 then do
          receive hear route.server (.number counter)
          return true
        else return false : SimM κ μ Bool) (w.onAir carried.2)
      else .ok false w := by
  unfold deliver deliverBy Medium.carry
  rw [get_bind_apply]
  cases known : w.motes.has route.server with
  | false => rfl
  | true =>
    simp only [Bool.not_true, Bool.false_eq_true, ↓reduceIte, transmit_bind_apply]
    cases direct : (w.medium.transmit id route.server).1 with
    | true => simp only [direct, ↓reduceIte]
    | false =>
      simp only [Bool.false_eq_true, ↓reduceIte]
      cases route.relay with
      | none => rfl
      | some relay =>
        simp only [get_bind_apply, World.onAir, Option.filter_some]
        by_cases known : w.motes.has relay = true
        · simp only [known, Bool.not_true, Bool.false_eq_true, ↓reduceIte, transmitVia_bind_apply]
          rfl
        · simp only [known, Bool.not_false, Bool.false_eq_true, ↓reduceIte]

theorem nextInterval_bind_apply {α : Type} (standard : w.config = Config.standard)
    (f : Int → SimM κ μ α) :
    (nextInterval >>= f) w =
      f (10000 + (w.jitter.next 500).1) { w with jitter := (w.jitter.next 500).2 } := by
  have run : nextInterval w =
      .ok (10000 + ((w.jitter.next 500).1 : Int)) { w with jitter := (w.jitter.next 500).2 } := by
    have bound : w.config.clientSendJitter = 500 := by rw [standard]; rfl
    have interval : w.config.clientSendInterval = 10000 := by rw [standard]; rfl
    unfold nextInterval
    rw [get_bind_apply]
    simp only [bound, interval]
    rfl
  exact bind_ok run f

/-- The server counts a datagram and reports it. -/
theorem receive_server (standard : w.config = Config.standard) {received : Nat} {n : Int}
    (present : w.motes.find? id = some mote) (inUse : mote.firmware? = some (.server received))
    (writable : Numeral.isWritable n = true) :
    receive hear id (.number n) w =
      emit hear id ("received " ++ Numeral.decimal n)
        (w.putMote id (mote.set mote.currentSlot (.server (received + 1)))) := by
  unfold receive
  rw [get_bind_apply]
  simp only [present, inUse, payloadText, writeInt, writable, ↓reduceIte, standard]
  rfl

/-- A number that is too long to be written is counted, but not reported. -/
theorem receive_unwritable {received : Nat} {n : Int} (present : w.motes.find? id = some mote)
    (inUse : mote.firmware? = some (.server received)) (long : Numeral.isWritable n = false) :
    receive hear id (.number n) w =
      .error (.failure .unwritableInteger)
        (w.putMote id (mote.set mote.currentSlot (.server (received + 1)))) := by
  unfold receive
  rw [get_bind_apply]
  simp only [present, inUse, payloadText, writeInt, long, Bool.false_eq_true, ↓reduceIte]
  rfl

/-- Nobody else minds a datagram. -/
theorem receive_other (idle : ∀ mote, w.motes.find? id = some mote →
    ∀ received, mote.firmware? ≠ some (.server received)) (payload : Payload) :
    receive hear id payload w = .ok () w := by
  unfold receive
  rw [get_bind_apply]
  cases present : w.motes.find? id with
  | none => rfl
  | some mote =>
    cases inUse : mote.firmware? with
    | none => simp only [inUse]; rfl
    | some firmware =>
      cases firmware with
      | server received => exact (idle mote present received inUse).elim
      | _ => simp only [inUse]; rfl

/-- A client sends its next counter and sets its timer again. -/
theorem sendNext_apply (there : w.clientAt id slot = some c) :
    sendNext hear id slot w =
      (do if ← deliver hear id c.route (c.counter + 1) then modifyClient id slot Client.confirm
          schedule (← nextInterval) (.tick id slot) : SimM κ μ Unit)
        (w.updateClient id slot Client.advance) := by
  have advanced : (w.updateClient id slot Client.advance).clientAt id slot = some c.advance := by
    rw [World.clientAt_updateClient, if_pos ⟨rfl, rfl⟩, there, Option.map_some]
  unfold sendNext sendNextBy
  rw [bind_ok (modifyClient_apply _), client?_bind_apply, advanced]
  rfl

/-- The timer of a client expires. -/
theorem tick_client (standard : w.config = Config.standard)
    (there : w.clientAt id slot = some c) :
    tick hear id slot w =
      (if c.exhausted then do
        emit hear id Config.standard.keywordDone
        modifyClient id slot Client.finish
      else match c.progress? Config.standard with
        | none => sendNext hear id slot
        | some report => do
          emit hear id report
          sendNext hear id slot : SimM κ μ Unit) w := by
  have inUse : firmware? id slot w = .ok (some (.client c)) w := by
    change EStateM.Result.ok ((w.motes.find? id).bind fun mote => mote.installed[slot]?) w = _
    rw [World.clientAt_eq_some.mp there]
  unfold tick tickBy
  rw [bind_ok inUse]
  simp only
  split
  · rw [get_bind_apply, standard]
  · refine (get_bind_apply _ w).trans ?_
    cases report : c.progress? Config.standard with
    | none => simp only [standard, report, sendNext]
    | some line => simp only [standard, report, sendNext]

/-- No other timer does anything. -/
theorem tick_other (empty : w.clientAt id slot = none)
    (sound : ∀ mote, w.motes.find? id = some mote → mote.installed[slot]? ≠ some .blankClient) :
    tick hear id slot w = .ok () w := by
  have inUse : firmware? id slot w =
      .ok ((w.motes.find? id).bind fun mote => mote.installed[slot]?) w := rfl
  unfold tick tickBy
  rw [bind_ok inUse]
  cases present : w.motes.find? id with
  | none => rfl
  | some mote =>
    simp only [Option.bind_some]
    cases place : mote.installed[slot]? with
    | none => rfl
    | some firmware =>
      cases firmware with
      | base => rfl
      | server received => rfl
      | blankClient => exact (sound mote present place).elim
      | client c =>
        simp only [World.clientAt, present, Option.bind_some, Mote.client?_eq, place,
          Firmware.client?, reduceCtorEq] at empty

/-- A mote without an application boots silently. -/
theorem boot_bare (bare : (w.motes.find? id).bind Mote.firmware? = none) :
    boot hear id w = .ok () w := by
  unfold boot
  rw [get_bind_apply]
  cases present : w.motes.find? id with
  | none => rfl
  | some mote =>
    simp only [present, Option.bind_some] at bare
    simp only [bare]
    rfl

/-- A mote with an application reports that it has started; a client sets its timer. -/
theorem boot_apply (standard : w.config = Config.standard)
    (writable : Numeral.isWritable id = true) (present : w.motes.find? id = some mote)
    {firmware : Firmware} (inUse : mote.firmware? = some firmware) :
    boot hear id w =
      (do emit hear id (Numeral.decimal id ++ " " ++ Config.standard.keywordStarted)
          if firmware.isClient then schedule 600000 (.tick id mote.currentSlot) : SimM κ μ Unit) w := by
  unfold boot
  rw [get_bind_apply]
  simp only [present, inUse, writeInt, writable, ↓reduceIte, ofExcept_ok_bind_apply, standard]
  cases firmware <;> rfl

end Operations

end MoteTrial
