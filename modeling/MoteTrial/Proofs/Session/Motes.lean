import MoteTrial.Proofs.Session.Invariant

/-! # Properties that the operations of motes keep

Motes touch neither hosts nor listeners by themselves, and nothing of what they do is recorded: what they
do that matters is what they log and when they set their timers. A property that bears all else, `Moves`,
is kept by the firmware if it bears these lines, `Speaks`, and these timers, `Sets`. A property that
`Carries` bears changes of links and whatever there is to observe as well.
-/

namespace MoteTrial.Session

open SimM Simulation

variable {κ μ : Type} {α β : Type}
variable {I I' : World κ μ → Prop} {E : Interrupt → World κ μ → Prop}

/-- What the two frames keep, each by itself. -/
theorem Keeps.transmitVia (hops : ∀ a b, Keeps I E (Simulation.transmit a b : SimM κ μ Bool))
    (source relay target : Int) :
    Keeps I E (Simulation.transmitVia source relay target : SimM κ μ Bool) := by
  unfold Simulation.transmitVia
  refine (hops source relay).bind fun heard => ?_
  split
  · exact hops relay target
  · exact Keeps.pure _

theorem keeps_onMedium (failed : ∀ {w}, I w → ∀ f, E (.failure f) w)
    (adjusts : ∀ medium, Keeps I E (modify fun w => { w with medium } : SimM κ μ Unit))
    (f : Config → Medium → Except Failure (α × Medium)) :
    Keeps I E (SimM.onMedium f : SimM κ μ α) := by
  unfold SimM.onMedium
  refine Keeps.reads fun w => (Keeps.ofExcept failed _).bind fun (a, medium) => ?_
  exact (adjusts medium).bind fun _ => Keeps.pure a

/-- Changing a link keeps what its change of the medium, its notes and its failures keep. -/
theorem Keeps.changeLink {kind : Change} {a b : Int}
    (changes : ∀ now, Keeps I E (SimM.onMedium fun config m =>
      return ((), ← m.change config now kind a b) : SimM κ μ Unit))
    (failed : ∀ {w}, I w → ∀ f, E (.failure f) w)
    (prints : ∀ text, Keeps I E (SimM.print text : SimM κ μ Unit))
    (records : ∀ id row, Keeps I E (SimM.observe (·.recordLink id row) : SimM κ μ Unit)) :
    Keeps I E (Simulation.changeLink kind a b : SimM κ μ Unit) := by
  unfold Simulation.changeLink
  refine Keeps.reads fun w => (changes _).bind fun _ => ?_
  refine (Keeps.ofExcept failed _).bind fun _ => (Keeps.ofExcept failed _).bind fun _ => ?_
  refine (Keeps.ofExcept failed _).bind fun _ => (prints _).bind fun _ => Keeps.reads fun w => ?_
  split
  · exact Keeps.pure _
  · exact records _ _

/-- A property that bears failures and what motes do without a word. -/
structure Moves (I : World κ μ → Prop) (E : Interrupt → World κ μ → Prop) : Prop where
  quiet : ∀ {w w' : World κ μ}, I w → Quiet w w' → I w'
  failed : ∀ {w : World κ μ}, I w → ∀ f, E (.failure f) w

namespace Moves

theorem fails (moves : Moves I E) (f : Failure) : Keeps I E (SimM.fail f : SimM κ μ α) :=
  Keeps.fails moves.failed f

theorem ofExcept (moves : Moves I E) (result : Except Failure α) :
    Keeps I E (SimM.ofExcept result : SimM κ μ α) := Keeps.ofExcept moves.failed result

/-- Sending a frame changes no link. -/
theorem mutations_transmit (a b : Int) (m : Medium) :
    (m.transmit a b).2.mutations = m.mutations := by
  unfold Medium.transmit
  split
  · rfl
  · split
    · rfl
    · rfl

theorem transmit (moves : Moves I E) (source target : Int) :
    Keeps I E (Simulation.transmit source target : SimM κ μ Bool) := by
  intro w kept
  refine moves.quiet kept ⟨⟨rfl, rfl, rfl, rfl, rfl, fun _ there => there⟩, rfl, rfl, ?_⟩
  exact mutations_transmit source target w.medium

theorem transmitVia (moves : Moves I E) (source relay target : Int) :
    Keeps I E (Simulation.transmitVia source relay target : SimM κ μ Bool) :=
  Keeps.transmitVia moves.transmit source relay target

end Moves

/-- A property that bears failures and changes apart from events, hosts and listeners. -/
structure Carries (I : World κ μ → Prop) (E : Interrupt → World κ μ → Prop) : Prop where
  aside : ∀ {w w' : World κ μ}, I w → Apart w w' → I w'
  failed : ∀ {w : World κ μ}, I w → ∀ f, E (.failure f) w

namespace Carries

theorem moves (carries : Carries I E) : Moves I E :=
  ⟨fun kept quiet => carries.aside kept quiet.toApart, carries.failed⟩

theorem ofExcept (carries : Carries I E) (result : Except Failure α) :
    Keeps I E (SimM.ofExcept result : SimM κ μ α) := carries.moves.ofExcept result

theorem adjusts (carries : Carries I E) {g : World κ μ → World κ μ} (apart : ∀ w, Apart w (g w)) :
    Keeps I E (modify g : SimM κ μ Unit) :=
  Keeps.modify fun {w} kept => carries.aside kept (apart w)

theorem observe (carries : Carries I E) (f : Observer → Observer) :
    Keeps I E (SimM.observe f : SimM κ μ Unit) :=
  carries.adjusts fun _ => ⟨rfl, rfl, rfl, rfl, rfl, fun _ there => there⟩

theorem print (carries : Carries I E) (text : String) :
    Keeps I E (SimM.print text : SimM κ μ Unit) := carries.observe _

theorem onMedium (carries : Carries I E) (f : Config → Medium → Except Failure (α × Medium)) :
    Keeps I E (SimM.onMedium f : SimM κ μ α) := by
  refine keeps_onMedium carries.failed (fun _ => carries.adjusts fun _ => ?_) f
  exact ⟨rfl, rfl, rfl, rfl, rfl, fun _ there => there⟩

theorem changeLink (carries : Carries I E) (kind : Change) (a b : Int) :
    Keeps I E (Simulation.changeLink kind a b : SimM κ μ Unit) :=
  Keeps.changeLink (fun _ => carries.onMedium _) carries.failed carries.print
    fun _ _ => carries.observe _

end Carries

theorem apart_changeLink (kind : Change) (a b : Int) (w : World κ μ) :
    Apart w (final (Simulation.changeLink kind a b) w) := by
  have carries : Carries (Apart w) fun _ => Apart w := by
    refine ⟨fun before after => ?_, fun apart _ => apart⟩
    exact ⟨after.scheduler.trans before.scheduler, after.hosts.trans before.hosts,
      after.memory.trans before.memory, after.config.trans before.config,
      after.listeners.trans before.listeners, fun id there => before.motes id (after.motes id there)⟩
  exact (carries.changeLink kind a b w ⟨rfl, rfl, rfl, rfl, rfl, fun _ there => there⟩).final

section Table

variable {w : World κ μ} {id : Int} {mote : Mote}

theorem has_of_find? (found : w.motes.find? id = some mote) : w.motes.has id = true := by
  rw [Table.has, found]
  rfl

/-- The state of a mote that there is may be replaced. -/
theorem quiet_put (there : w.motes.has id = true) (mote : Mote) :
    Quiet w { w with motes := w.motes.put id mote } := by
  refine ⟨⟨rfl, rfl, rfl, rfl, rfl, fun other found => ?_⟩, rfl, rfl, rfl⟩
  by_cases same : other = id
  · rw [same]
    exact there
  · rwa [Table.has, Table.find?_put_of_ne _ _ same] at found

theorem firmware?_apply (id : Int) (slot : Nat) (w : World κ μ) :
    Simulation.firmware? id slot w = .ok (w.motes.find? id |>.bind (·.installed[slot]?)) w := rfl

theorem client?_apply (id : Int) (slot : Nat) (w : World κ μ) :
    Simulation.client? id slot w = .ok (w.motes.find? id |>.bind (·.client? slot)) w := rfl

/-- The time until a client sends again is the interval and some jitter. -/
theorem nextInterval_cases (w : World κ μ) :
    (∃ f, Simulation.nextInterval w = .error (.failure f) w) ∨
      ∃ (delay : Nat) (jitter : Random.Jitter),
        Simulation.nextInterval w =
          .ok (w.config.clientSendInterval + delay) { w with jitter } := by
  unfold Simulation.nextInterval
  by_cases negative : w.config.clientSendJitter < 0
  · refine .inl ⟨(Failure.emptyRange w.config.clientSendJitter).settled, ?_⟩
    rw [get_bind_apply]
    simp only [negative, ↓reduceIte]
    rfl
  · cases drawn : w.jitter.next w.config.clientSendJitter.toNat with
    | mk delay jitter =>
    refine .inr ⟨delay, jitter, ?_⟩
    rw [get_bind_apply]
    simp only [negative, ↓reduceIte, drawn]
    rfl

end Table

section Firmware

variable {hear : Hearing κ μ}

/-- What the firmware of motes logs does no harm. -/
def Speaks (hear : Hearing κ μ) (I : World κ μ → Prop) (E : Interrupt → World κ μ → Prop) : Prop :=
  ∀ {w : World κ μ} {id : Int} {msg : String}, I w → w.motes.has id = true →
    Voiced w.config id msg → Kept I E (Simulation.emit hear id msg w)

/-- Timers of motes may be set; what is left then may be another property. -/
structure Sets (I I' : World κ μ → Prop) (E : Interrupt → World κ μ → Prop) : Prop where
  rests : ∀ {w : World κ μ}, I w → I' w
  starts : ∀ {w w' : World κ μ}, I w → I w' → ∀ (id : Int) (slot : Nat),
    Kept I' E (Simulation.schedule w.config.clientStartDelay (.tick id slot) w')
  rearms : ∀ {w : World κ μ} {delay : Int}, I w → w.config.clientSendInterval ≤ delay →
    ∀ (id : Int) (slot : Nat), Kept I' E (Simulation.schedule delay (.tick id slot) w)

namespace Moves

theorem modifyClient (moves : Moves I E) (id : Int) (slot : Nat) (f : Client → Client) :
    Keeps I E (Simulation.modifyClient id slot f : SimM κ μ Unit) := by
  refine Keeps.modify fun {w} kept => ?_
  split
  · exact kept
  · rename_i mote found
    split
    · exact kept
    · exact moves.quiet kept (quiet_put (has_of_find? found) _)

theorem receive (moves : Moves I E) (speaks : Speaks hear I E) (id : Int) (counter : Nat) :
    Keeps I E (Simulation.receive hear id (.number counter)) := by
  unfold Simulation.receive
  refine Keeps.seen fun w kept => ?_
  cases found : w.motes.find? id with
  | none => exact kept
  | some mote =>
    have replaced (mote : Mote) : I { w with motes := w.motes.put id mote } :=
      moves.quiet kept (quiet_put (has_of_find? found) mote)
    dsimp only
    match mote.firmware? with
    | some (.server received) =>
      simp only [setMote, modify_bind_apply, payloadText]
      cases writable : Numeral.isWritable counter with
      | false =>
        simp only [writeInt_unwritable writable]
        exact moves.failed (replaced _) _
      | true =>
        simp only [writeInt_apply writable]
        refine speaks (replaced _) ?_ (.received counter)
        simp [Table.has]
    | none | some .base | some (.client _) | some .blankClient => exact kept

theorem deliver (moves : Moves I E) (speaks : Speaks hear I E) (id : Int) (route : Route)
    (counter : Nat) : Keeps I E (Simulation.deliver hear id route counter) := by
  have received := (moves.receive speaks route.server counter).bind
    fun _ => Keeps.pure (I := I) (E := E) true
  unfold Simulation.deliver deliverBy
  refine Keeps.reads fun w => ?_
  split
  · exact Keeps.pure _
  · refine (moves.transmit _ _).bind fun heard => ?_
    split
    · exact received
    · split
      · exact Keeps.pure _
      · refine Keeps.reads fun w => ?_
        split
        · exact Keeps.pure _
        · refine (moves.transmitVia _ _ _).bind fun heard => ?_
          split
          · exact received
          · exact Keeps.pure _

theorem rearm (moves : Moves I E) (sets : Sets I I' E) (id : Int) (slot : Nat) {w : World κ μ}
    (kept : I w) :
    Kept I' E ((Simulation.nextInterval >>= fun delay =>
      Simulation.schedule delay (.tick id slot)) w) := by
  rcases nextInterval_cases w with ⟨f, refused⟩ | ⟨delay, jitter, drawn⟩
  · rw [bind_error refused]
    exact moves.failed kept f
  · rw [bind_ok drawn]
    have drawn : I { w with jitter } :=
      moves.quiet kept ⟨⟨rfl, rfl, rfl, rfl, rfl, fun _ there => there⟩, rfl, rfl, rfl⟩
    exact sets.rearms drawn (by simp only; omega) id slot

theorem sendNext (moves : Moves I E) (speaks : Speaks hear I E) (sets : Sets I I' E) (id : Int)
    (slot : Nat) {w : World κ μ} (kept : I w) : Kept I' E (Simulation.sendNext hear id slot w) := by
  unfold Simulation.sendNext sendNextBy
  refine (moves.modifyClient _ _ _ w kept).bind fun _ w kept => ?_
  rw [bind_ok (client?_apply id slot w)]
  match (w.motes.find? id).bind (·.client? slot) with
  | none => exact sets.rests kept
  | some c =>
    refine (moves.deliver speaks _ _ _ w kept).bind fun delivered w kept => ?_
    cases delivered with
    | true =>
      refine (moves.modifyClient _ _ _ w kept).bind fun _ w kept => ?_
      exact moves.rearm sets id slot kept
    | false => exact moves.rearm sets id slot kept

theorem boot (moves : Moves I E) (sets : Sets I I' E) (id : Int) {w : World κ μ} (kept : I w)
    (starts : w.motes.has id = true → Kept I E
      (Simulation.emit hear id (Numeral.decimal id ++ " " ++ w.config.keywordStarted) w)) :
    Kept I' E (Simulation.boot hear id w) := by
  unfold Simulation.boot
  rw [get_bind_apply]
  cases found : w.motes.find? id with
  | none => exact sets.rests kept
  | some mote =>
    dsimp only
    match mote.firmware? with
    | none => exact sets.rests kept
    | some firmware =>
      cases writable : Numeral.isWritable id with
      | false =>
        simp only [writeInt_unwritable writable]
        exact moves.failed kept _
      | true =>
        simp only [writeInt_apply writable, ofExcept_ok_bind_apply]
        refine (starts (has_of_find? found)).bind fun _ w' kept' => ?_
        cases firmware with
        | client _ | blankClient => exact sets.starts kept kept' _ _
        | base | server _ => exact sets.rests kept'

/-- A client reports its progress with the usual keywords. -/
theorem voiced_progress {config : Config} {id : Int} {c : Client} {report : String}
    (reports : c.progress? config = some report) : Voiced config id report := by
  obtain ⟨milestone, -, rfl⟩ := Option.map_eq_some_iff.mp reports
  cases milestone with
  | oneThird => exact .deteriorate
  | twoThirds => exact .improve

theorem tick (moves : Moves I E) (speaks : Speaks hear I E) (sets : Sets I I' E) (id : Int)
    (slot : Nat) {w : World κ μ} (kept : I w) : Kept I' E (Simulation.tick hear id slot w) := by
  unfold Simulation.tick tickBy
  rw [bind_ok (firmware?_apply id slot w)]
  cases found : (w.motes.find? id).bind (·.installed[slot]?) with
  | none => exact sets.rests kept
  | some firmware =>
    have there : w.motes.has id = true := by
      obtain ⟨mote, held, _⟩ := Option.bind_eq_some_iff.mp found
      exact has_of_find? held
    cases firmware with
    | base | server _ => exact sets.rests kept
    | blankClient => exact moves.failed kept _
    | client c =>
      cases ended : c.exhausted with
      | true =>
        simp only [ended, ↓reduceIte, get_bind_apply]
        refine (speaks kept there .done).bind fun _ w kept => ?_
        exact (moves.modifyClient _ _ _ w kept).imp (fun _ kept => sets.rests kept)
          fun _ _ ends => ends
      | false =>
        simp only [ended, Bool.false_eq_true, ↓reduceIte, get_bind_apply]
        cases reports : c.progress? w.config with
        | none => exact moves.sendNext speaks sets id slot kept
        | some report =>
          refine (speaks kept there (voiced_progress reports)).bind fun _ w kept => ?_
          exact moves.sendNext speaks sets id slot kept

end Moves

end Firmware

section SettingUp

variable {id : Int} {firmware : Option Firmware}

/-- Adding a mote keeps what bears that a new mote is there. -/
theorem Keeps.addMote (failed : ∀ {w}, I w → ∀ f, E (.failure f) w)
    (new : ∀ {w}, I w → w.motes.has id = false → ∀ mote, I { w with motes := w.motes.put id mote }) :
    Keeps I E (Simulation.addMote id firmware) := by
  unfold Simulation.addMote
  refine Keeps.seen fun w kept => ?_
  cases there : w.motes.has id with
  | true => exact failed kept _
  | false =>
    cases firmware with
    | none => exact new kept there _
    | some firmware => exact new kept there _

/-- Scheduling the boots of all motes keeps what scheduling one boot does. -/
theorem Keeps.bootAll
    (boots : ∀ delay id, Keeps I E (Simulation.schedule delay (.boot id) : SimM κ μ Unit)) :
    Keeps I E (Simulation.bootAll : SimM κ μ Unit) := by
  unfold Simulation.bootAll
  refine Keeps.reads fun w => ?_
  generalize w.motes.entries = entries
  induction entries with
  | nil => exact Keeps.pure _
  | cons entry rest ih =>
    obtain ⟨id, mote⟩ := entry
    unfold bootEach
    split
    · exact (boots _ _).bind fun _ => ih
    · exact ih

end SettingUp

end MoteTrial.Session
