import MoteTrial.Failure

/-! # Event scheduler

Simulated time in milliseconds and the events that are still to come. An event is registered with a
due time and receives the next serial number; events are fired in order of due time, and in order of
registration among those due at the same time. The order and the freshness of serial numbers are
part of the type.
-/

namespace MoteTrial

/-- An event with its due time and serial number. -/
structure Appointment (α : Type) where
  due : Int
  serial : Nat
  event : α
  deriving Repr

/-- The firing order: by due time, then by serial number. -/
def Appointment.Before {α : Type} (a b : Appointment α) : Prop :=
  a.due < b.due ∨ a.due = b.due ∧ a.serial < b.serial

/-- The clock and the pending events. -/
structure Scheduler (α : Type) where
  now : Int := 0
  pending : List (Appointment α) := []
  issued : Nat := 0
  stopped : Bool := false
  processed : Nat := 0
  ordered : pending.Pairwise Appointment.Before := by exact .nil
  fresh : ∀ a ∈ pending, a.serial < issued := by exact List.forall_mem_nil _

namespace Scheduler

variable {α : Type}

/-- Inserts an appointment after all that are due no later. -/
def insert (new : Appointment α) : List (Appointment α) → List (Appointment α)
  | [] => [new]
  | a :: rest => if new.due < a.due then new :: a :: rest else a :: insert new rest

theorem mem_insert {new a : Appointment α} {pending : List (Appointment α)} :
    a ∈ insert new pending ↔ a = new ∨ a ∈ pending := by
  induction pending with
  | nil => simp [insert]
  | cons b rest ih =>
    simp only [insert]
    split
    · simp
    · simp only [List.mem_cons, ih]
      constructor
      · rintro (h | h | h) <;> simp [h]
      · rintro (h | h | h) <;> simp [h]

theorem insert_ordered {new : Appointment α} {pending : List (Appointment α)}
    (ordered : pending.Pairwise Appointment.Before)
    (fresh : ∀ a ∈ pending, a.serial < new.serial) :
    (insert new pending).Pairwise Appointment.Before := by
  induction pending with
  | nil => exact List.pairwise_singleton _ _
  | cons b rest ih =>
    obtain ⟨bBefore, restOrdered⟩ := List.pairwise_cons.mp ordered
    simp only [insert]
    split
    · rename_i earlier
      refine List.pairwise_cons.mpr ⟨?_, ordered⟩
      intro a member
      rcases List.mem_cons.mp member with rfl | member
      · exact .inl earlier
      · rcases bBefore a member with h | h
        · exact .inl (Int.lt_trans earlier h)
        · exact .inl (h.1 ▸ earlier)
    · rename_i later
      refine List.pairwise_cons.mpr
        ⟨?_, ih restOrdered fun a member => fresh a (List.mem_cons_of_mem _ member)⟩
      intro a member
      rcases mem_insert.mp member with rfl | member
      · have := fresh b (List.mem_cons_self ..)
        by_cases same : b.due = a.due
        · exact .inr ⟨same, this⟩
        · exact .inl (by omega)
      · exact bBefore a member

/-- Registers an event that is due at a given time. -/
def register (s : Scheduler α) (due : Int) (event : α) : Scheduler α :=
  { s with
    pending := insert ⟨due, s.issued, event⟩ s.pending
    issued := s.issued + 1
    ordered := insert_ordered s.ordered s.fresh
    fresh := by
      intro a member
      rcases mem_insert.mp member with rfl | member
      · exact Nat.lt_succ_self _
      · exact Nat.lt_succ_of_lt (s.fresh a member) }

/-- Registers an event that is due after a delay, which must not be negative. -/
def schedule (s : Scheduler α) (delay : Int) (event : α) : Except Failure (Scheduler α) :=
  if delay < 0 then .error (.pastDelay delay) else .ok (s.register (s.now + delay) event)

/-- Registers an event that is due at a given time, or now if that is past. -/
def scheduleAt (s : Scheduler α) (time : Int) (event : α) : Except Failure (Scheduler α) :=
  s.schedule (max 0 (time - s.now)) event

/-- The next event, with the clock set to its due time and the event no longer pending. -/
def next? (s : Scheduler α) : Option (Appointment α × Scheduler α) :=
  match h : s.pending with
  | [] => none
  | a :: rest => some (a,
      { s with
        now := a.due
        pending := rest
        ordered := (List.pairwise_cons.mp (h ▸ s.ordered)).2
        fresh := fun b member => s.fresh b (h ▸ List.mem_cons_of_mem _ member) })

/-- The due time of the next event. -/
def nextDue? (s : Scheduler α) : Option Int := s.pending.head?.map (·.due)

/-- Notes that an event was carried out. -/
def finishEvent (s : Scheduler α) : Scheduler α := { s with processed := s.processed + 1 }

/-- Sets the clock. -/
def setNow (s : Scheduler α) (now : Int) : Scheduler α := { s with now }

/-- Stops the simulation for good. -/
def stop (s : Scheduler α) : Scheduler α := { s with stopped := true }

theorem scheduleAt_eq (s : Scheduler α) (time : Int) (event : α) :
    s.scheduleAt time event = .ok (s.register (max s.now time) event) := by
  have : ¬ max 0 (time - s.now) < 0 := by omega
  have sum : s.now + max 0 (time - s.now) = max s.now time := by omega
  simp only [scheduleAt, schedule, this, ↓reduceIte, sum]

end Scheduler

end MoteTrial
