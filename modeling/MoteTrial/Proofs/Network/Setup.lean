import MoteTrial.Proofs.Network.Sending
import MoteTrial.Scenario

/-! # Motes, links and boots

How a fresh simulation is furnished: what it is to add a mote, to declare a link, and to schedule the
boots of all motes, and which events are pending then.
-/

namespace MoteTrial

open SimM Simulation Scenario

variable {κ μ : Type}

/-- The subject of an event: the mote that it boots or whose timer it is. -/
def Event.subject? : Event κ → Option Int
  | .boot id => some id
  | .tick id _ => some id
  | _ => none

/-- The motes that pending events will boot or whose timers they are. -/
def subjects (pending : List (Appointment (Event κ))) : List Int :=
  pending.filterMap fun a => a.event.subject?

theorem subjects_cons {a : Appointment (Event κ)} {id : Int} (about : a.event.subject? = some id)
    (rest : List (Appointment (Event κ))) : subjects (a :: rest) = id :: subjects rest := by
  simp only [subjects, List.filterMap_cons, about]

theorem subjects_insert (a : Appointment (Event κ)) (pending : List (Appointment (Event κ))) :
    (subjects (Scheduler.insert a pending)).Perm (subjects (a :: pending)) :=
  (Scheduler.insert_perm a pending).filterMap _

/-- The pending events with their times. -/
def World.agenda (w : World κ μ) : List (Int × Event κ) :=
  w.scheduler.pending.map fun a => (a.due, a.event)

/-- An event that is due no earlier than all others comes last. -/
theorem Scheduler.insert_last {α : Type} {a : Appointment α} {pending : List (Appointment α)}
    (last : ∀ b ∈ pending, b.due ≤ a.due) : Scheduler.insert a pending = pending ++ [a] := by
  induction pending with
  | nil => rfl
  | cons b rest ih =>
    have first := last b (List.mem_cons_self ..)
    rw [Scheduler.insert, if_neg (by omega),
      ih fun c member => last c (List.mem_cons_of_mem _ member), List.cons_append]

namespace Table

variable {α β : Type} [Ord α] [Std.TransOrd α] [Std.LawfulEqOrd α]

omit [Std.TransOrd α] in
theorem lookup_of_mem {entries : List (α × β)} {e : α × β} (member : e ∈ entries)
    (increasing : entries.Pairwise fun a b => compare a.1 b.1 = .lt) :
    lookup e.1 entries = some e.2 := by
  induction entries with
  | nil => cases member
  | cons head rest ih =>
    obtain ⟨before, sorted⟩ := List.pairwise_cons.mp increasing
    rcases List.mem_cons.mp member with rfl | member
    · simp only [lookup, Std.ReflCmp.compare_self, ↓reduceIte]
    · have differs : compare e.1 head.1 ≠ .eq := by
        intro same
        have less := before e member
        have self : compare head.1 head.1 = .eq := Std.ReflCmp.compare_self
        rw [Std.LawfulEqCmp.compare_eq_iff_eq.mp same, self] at less
        cases less
      simp only [lookup, differs, ↓reduceIte, ih member sorted]

omit [Std.TransOrd α] in
theorem find?_of_mem {t : Table α β} {e : α × β} (member : e ∈ t.entries) :
    t.find? e.1 = some e.2 := lookup_of_mem member t.increasing

omit [Std.TransOrd α] in
theorem nodup_keys (t : Table α β) : (t.entries.map (·.1)).Nodup := by
  refine List.pairwise_map.mpr (t.increasing.imp fun {a b} less same => ?_)
  have self : compare b.1 b.1 = .eq := Std.ReflCmp.compare_self
  rw [same, self] at less
  cases less

end Table

/-- The application of a mote when it is added. -/
inductive App where
  | bare
  | base
  | server
  | client (route : Route) (limit : Int) (reports : Bool)
  deriving DecidableEq, Repr

namespace App

/-- The firmware that is installed for an application. -/
def firmware? : App → Option Firmware
  | .bare => none
  | .base => some .base
  | .server => some (.server 0)
  | .client route limit reports => some (.client { route, limit, reports })

/-- A mote with an application. -/
def mote (app : App) : Mote :=
  match app.firmware? with
  | none => {}
  | some firmware => Mote.install {} firmware

end App

section Steps

variable {w : World κ μ}

theorem addMote_apply {id : Int} (new : w.motes.has id = false) (app : App) :
    addMote id app.firmware? w = .ok () (w.putMote id app.mote) := by
  unfold addMote App.mote
  rw [get_bind_apply]
  simp only [new, Bool.false_eq_true, ↓reduceIte]
  cases app.firmware? <;> rfl

/-- The ratio that is given for a link, or the usual one if none is given, is a reception ratio. -/
structure Declares (amount : Option Amount) (ratio : Binary64) : Prop where
  value : (amount.mapM Amount.value).map (·.getD Config.standard.nominalRatio) = .ok ratio
  valid : Medium.isRatio ratio = true

theorem Declares.double {ratio : Binary64} (valid : Medium.isRatio ratio = true) :
    Declares (some (.double ratio)) ratio := ⟨rfl, valid⟩

theorem link_apply (standard : w.config = Config.standard) {amount : Option Amount}
    {ratio : Binary64} (declares : Declares amount ratio) (a b : Int) :
    link a b amount w =
      .ok ⟨ratio, ratio, false⟩ (w.onAir (w.medium.setLink a b ⟨ratio, ratio, false⟩)) := by
  obtain ⟨value, valid⟩ := declares
  unfold link
  cases given : amount.mapM Amount.value with
  | error f => rw [given] at value; cases value
  | ok found =>
    have same : found.getD Config.standard.nominalRatio = ratio := by
      rw [given] at value
      exact Except.ok.inj value
    have declared : w.medium.addLink w.config a b found =
        .ok (⟨ratio, ratio, false⟩, w.medium.setLink a b ⟨ratio, ratio, false⟩) := by
      simp only [Medium.addLink, standard, same, valid, ↓reduceIte]
    exact onMedium_ok (f := fun config m => m.addLink config a b found) declared

/-- The world with the boots of motes scheduled. -/
def World.booting (interval : Int) : List (Int × Mote) → World κ μ → World κ μ
  | [], w => w
  | (id, mote) :: rest, w =>
    World.booting interval rest
      (if mote.firmware?.isSome then w.register (w.now + interval * id) (.boot id) else w)

theorem bootEach_apply {interval : Int} (forward : 0 ≤ interval) {entries : List (Int × Mote)}
    (nonneg : ∀ e ∈ entries, 0 ≤ e.1) (w : World κ μ) :
    bootEach interval entries w = .ok () (w.booting interval entries) := by
  induction entries generalizing w with
  | nil => rfl
  | cons head rest ih =>
    obtain ⟨id, mote⟩ := head
    have first := nonneg (id, mote) (List.mem_cons_self ..)
    have later := ih fun e member => nonneg e (List.mem_cons_of_mem _ member)
    unfold bootEach World.booting
    cases mote.firmware?.isSome with
    | false => exact later w
    | true =>
      simp only [↓reduceIte]
      rw [bind_ok (schedule_apply (Int.mul_nonneg forward first) _ w)]
      exact later _

/-- Scheduling boots changes the pending events and nothing else. -/
theorem World.booting_keeps (interval : Int) (entries : List (Int × Mote)) (w : World κ μ) :
    ∃ scheduler, w.booting interval entries = { w with scheduler } ∧ scheduler.now = w.now ∧
      scheduler.stopped = w.scheduler.stopped := by
  induction entries generalizing w with
  | nil => exact ⟨w.scheduler, rfl, rfl, rfl⟩
  | cons head rest ih =>
    obtain ⟨id, mote⟩ := head
    unfold World.booting
    split
    · exact ih _
    · exact ih _

/-- Boots that are scheduled in the order of their motes come after all that is due before. -/
theorem World.agenda_booting {entries : List (Int × Mote)}
    (increasing : entries.Pairwise fun a b => a.1 < b.1) (w : World κ μ)
    (after : ∀ a ∈ w.scheduler.pending, ∀ e ∈ entries, a.due ≤ w.now + 1333 * e.1) :
    (w.booting 1333 entries).agenda = w.agenda ++
      (entries.filter fun e => e.2.firmware?.isSome).map fun e => (w.now + 1333 * e.1, .boot e.1) := by
  induction entries generalizing w with
  | nil => exact (List.append_nil _).symm
  | cons head rest ih =>
    obtain ⟨id, mote⟩ := head
    obtain ⟨first, sorted⟩ := List.pairwise_cons.mp increasing
    have others : ∀ a ∈ w.scheduler.pending, ∀ e ∈ rest, a.due ≤ w.now + 1333 * e.1 :=
      fun a pending e member => after a pending e (List.mem_cons_of_mem _ member)
    unfold World.booting
    cases inUse : mote.firmware?.isSome with
    | false =>
      simp only [inUse, Bool.false_eq_true, ↓reduceIte, List.filter_cons]
      exact ih sorted w others
    | true =>
      let boot : Appointment (Event κ) := ⟨w.now + 1333 * id, w.scheduler.issued, .boot id⟩
      have grown : (w.register (w.now + 1333 * id) (.boot id)).scheduler.pending =
          w.scheduler.pending ++ [boot] :=
        Scheduler.insert_last fun a pending => after a pending (id, mote) (List.mem_cons_self ..)
      have now : (w.register (w.now + 1333 * id) (.boot id)).now = w.now := rfl
      simp only [inUse, ↓reduceIte, List.filter_cons, List.map_cons]
      rw [ih sorted, now, World.agenda, grown, List.map_append, List.append_assoc]
      · rfl
      · intro a pending e member
        rw [grown] at pending
        rcases List.mem_append.mp pending with pending | last
        · exact others a pending e member
        · rw [List.mem_singleton.mp last, now]
          have := first e member
          simp only [boot] at this ⊢
          omega

/-- A simulation to which nothing has been added and in which nothing has happened. -/
structure World.Fresh (w : World κ μ) : Prop where
  standard : w.config = Config.standard
  idle : w.scheduler = {}
  unpeopled : w.motes = ∅
  unlinked : w.medium.links = ∅
  unchanged : w.medium.mutations = #[]
  unheard : w.listeners = []
  unhosted : w.hosts = #[]
  silent : w.radioTrace = none

theorem World.fresh_ofChance (draws : Random.Draws) (jitter : Random.Jitter) (observer : Observer)
    (memory : μ) : (ofChance Config.standard draws jitter observer memory : World κ μ).Fresh :=
  ⟨rfl, rfl, rfl, rfl, rfl, rfl, rfl, rfl⟩

/-- A seed that is not negative gives a fresh simulation. -/
theorem World.fresh_ofSeed {seed : Int} (nonneg : 0 ≤ seed) (observer : Observer) (memory : μ) :
    ∃ w : World κ μ, ofSeed Config.standard (some seed) observer memory = .ok w ∧ w.Fresh := by
  unfold ofSeed Medium.ofSeed
  simp only [Option.getD_some, if_neg (show ¬ seed < 0 by omega)]
  exact ⟨_, rfl, rfl, rfl, rfl, rfl, rfl, rfl, rfl, rfl⟩

/-- The world with other sources of chance. -/
def World.chancing (draws : Random.Draws) (jitter : Random.Jitter) (w : World κ μ) : World κ μ :=
  { w with jitter, medium := { w.medium with draws } }

/-- Chance is free in a fresh simulation. -/
theorem World.Fresh.chancing (fresh : w.Fresh) (draws : Random.Draws) (jitter : Random.Jitter) :
    (w.chancing draws jitter).Fresh :=
  ⟨fresh.standard, fresh.idle, fresh.unpeopled, fresh.unlinked, fresh.unchanged, fresh.unheard,
    fresh.unhosted, fresh.silent⟩

end Steps

end MoteTrial
