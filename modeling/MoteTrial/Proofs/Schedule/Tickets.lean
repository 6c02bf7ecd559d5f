import MoteTrial.Proofs.Execution

/-! # Callbacks with tickets

Callbacks are arbitrary programs that schedule, stop, raise and change whatever else there is. Each
carries a ticket with its registration number and its due time, and a diary notes when it is
registered, when it starts and when it returns. The diary is `Consistent` with the queue, and the code
of a callback keeps it so.
-/

namespace MoteTrial.FiringOrder

open SimM Simulation

/-- A registered callback: its number among the registrations, the time it is due, its code. -/
structure Ticket (κ : Type) where
  number : Nat
  due : Int
  code : κ

/-- A callback that has started, and the time at which it did. -/
structure Firing (κ : Type) where
  ticket : Ticket κ
  start : Int

/-- What is noted about the callbacks of a session, beside the memory of their own. -/
structure Diary (κ μ : Type) where
  registered : List (Ticket κ) := []
  fired : List (Firing κ) := []
  returned : List (Ticket κ) := []
  own : μ

/-- The code of a callback. `consult` lets it depend on everything there is to see, `alter` changes
anything but the scheduler and the diary. -/
inductive Program (κ μ : Type) where
  | finish
  | raise (f : Failure)
  | schedule (delay : Int) (code : κ) (next : Program κ μ)
  | scheduleAt (time : Int) (code : κ) (next : Program κ μ)
  | stop (next : Program κ μ)
  | alter (change : World (Ticket κ) (Diary κ μ) → World (Ticket κ) (Diary κ μ))
      (next : Program κ μ)
  | consult (next : World (Ticket κ) (Diary κ μ) → Program κ μ)

/-- What the caller of a simulation asks of it; `fuel` bounds the number of events of a run. -/
inductive Request (κ : Type) where
  | schedule (delay : Int) (code : κ)
  | scheduleAt (time : Int) (code : κ)
  | step
  | run (bound : Option Int) (fuel : Nat)

variable {κ μ : Type}

/-- The appointment that a registration makes. -/
def Ticket.appointment (t : Ticket κ) : Appointment (Event (Ticket κ)) :=
  ⟨t.due, t.number, .task t⟩

/-- The order of tickets: by due time, then by registration number. -/
def Ticket.Before (s t : Ticket κ) : Prop := s.due < t.due ∨ s.due = t.due ∧ s.number < t.number

/-- The ticket of a callback's event. -/
def ticket? : Event (Ticket κ) → Option (Ticket κ)
  | .task t => some t
  | _ => none

/-- The tickets that are still to be called up, in the order of the queue. -/
def waiting (w : World (Ticket κ) (Diary κ μ)) : List (Ticket κ) :=
  w.scheduler.pending.filterMap fun a => ticket? a.event

/-- Changes the diary. -/
def Diary.change (f : Diary κ μ → Diary κ μ) : SimM (Ticket κ) (Diary κ μ) Unit :=
  modify fun w => { w with memory := f w.memory }

/-- Registers a callback that will be due at the given time. -/
def enroll (due : Int) (code : κ)
    (request : Event (Ticket κ) → SimM (Ticket κ) (Diary κ μ) Unit) :
    SimM (Ticket κ) (Diary κ μ) Unit := do
  let ticket : Ticket κ := ⟨(← get).memory.registered.length, due, code⟩
  request (.task ticket)
  Diary.change fun d => { d with registered := d.registered ++ [ticket] }

/-- Schedules a callback after a delay. -/
def enrollAfter (delay : Int) (code : κ) : SimM (Ticket κ) (Diary κ μ) Unit := do
  enroll ((← get).now + delay) code (Simulation.schedule delay)

/-- Schedules a callback at a time, or now if that is past. -/
def enrollAt (time : Int) (code : κ) : SimM (Ticket κ) (Diary κ μ) Unit := do
  enroll (max (← get).now time) code (Simulation.scheduleAt time)

/-- A world changed at will, but for its scheduler and its diary. -/
def altered (change : World (Ticket κ) (Diary κ μ) → World (Ticket κ) (Diary κ μ))
    (w : World (Ticket κ) (Diary κ μ)) : World (Ticket κ) (Diary κ μ) :=
  { change w with
    scheduler := w.scheduler
    memory := { w.memory with own := (change w).memory.own } }

/-- Carries out the code of a callback. -/
def Program.exec : Program κ μ → SimM (Ticket κ) (Diary κ μ) Unit
  | .finish => pure ()
  | .raise f => fail f
  | .schedule delay code next => do
    enrollAfter delay code
    next.exec
  | .scheduleAt time code next => do
    enrollAt time code
    next.exec
  | .stop next => do
    Simulation.stop
    next.exec
  | .alter change next => do
    modify (altered change)
    next.exec
  | .consult next => do (next (← get)).exec

/-- The behaviour of callbacks with given code: each notes its start and its return. -/
def behaviour (code : κ → Program κ μ) : Behaviour (Ticket κ) (Diary κ μ) := fun t _ => do
  let start ← now
  Diary.change fun d => { d with fired := d.fired ++ [⟨t, start⟩] }
  (code t.code).exec
  Diary.change fun d => { d with returned := d.returned ++ [t] }
  return false

/-- Carries out a request. -/
def Request.perform (code : κ → Program κ μ) : Request κ → SimM (Ticket κ) (Diary κ μ) Unit
  | .schedule delay c => enrollAfter delay c
  | .scheduleAt time c => enrollAt time c
  | .step => do let _ ← Simulation.step (fire (behaviour code))
  | .run bound fuel => do let _ ← Simulation.run (fire (behaviour code)) bound fuel

/-- A run may not be asked to stop before the present. -/
def Request.Admissible (w : World (Ticket κ) (Diary κ μ)) : Request κ → Prop
  | .run (some limit) _ => w.now ≤ limit
  | _ => True

/-- The worlds that sessions reach from fresh simulations; a request that fails leaves the world
that it made so far. -/
inductive Reachable (code : κ → Program κ μ) : World (Ticket κ) (Diary κ μ) → Prop where
  | fresh {w : World (Ticket κ) (Diary κ μ)} (clock : w.scheduler = {})
      (blank : w.memory = { own := w.memory.own }) : Reachable code w
  | request {w : World (Ticket κ) (Diary κ μ)} {r : Request κ} (earlier : Reachable code w)
      (admissible : r.Admissible w) : Reachable code (final (r.perform code) w)

/-- The bookkeeping invariant: the queue holds appointments of registered tickets, all of them after
the last that fired and none of them past. -/
structure Consistent (w : World (Ticket κ) (Diary κ μ)) : Prop where
  numbered : w.memory.registered.map Ticket.number = List.range w.memory.registered.length
  issued : w.scheduler.issued = w.memory.registered.length
  queued : w.scheduler.pending = (waiting w).map Ticket.appointment
  conserved : (w.memory.fired.map Firing.ticket ++ waiting w).Perm w.memory.registered
  ordered : (w.memory.fired.map Firing.ticket).Pairwise Ticket.Before
  punctual : ∀ f ∈ w.memory.fired, f.start = f.ticket.due
  past : ∀ f ∈ w.memory.fired, f.ticket.due ≤ w.now
  future : ∀ t ∈ waiting w, w.now ≤ t.due
  ahead : ∀ f ∈ w.memory.fired, ∀ t ∈ waiting w, f.ticket.Before t

theorem waiting_eq {w : World (Ticket κ) (Diary κ μ)} {tickets : List (Ticket κ)}
    (queue : w.scheduler.pending = tickets.map Ticket.appointment) : waiting w = tickets := by
  rw [waiting, queue, List.filterMap_map]
  exact List.filterMap_some

theorem consistent_fresh {w : World (Ticket κ) (Diary κ μ)} (clock : w.scheduler = {})
    (blank : w.memory = { own := w.memory.own }) : Consistent w := by
  have queue : w.scheduler.pending = ([] : List (Ticket κ)).map Ticket.appointment := by
    rw [clock]
    rfl
  have empty := waiting_eq queue
  have registered : w.memory.registered = [] := by rw [blank]
  have fired : w.memory.fired = [] := by rw [blank]
  constructor <;> simp [empty, registered, fired, clock]

/-- Where a new ticket stands in the queue: after all that are due no later. -/
theorem insert_appointment (t : Ticket κ) (tickets : List (Ticket κ)) :
    ∃ before after, tickets = before ++ after ∧
      Scheduler.insert t.appointment (tickets.map Ticket.appointment) =
        (before ++ t :: after).map Ticket.appointment := by
  induction tickets with
  | nil => exact ⟨[], [], rfl, rfl⟩
  | cons head rest ih =>
    by_cases earlier : t.due < head.due
    · exact ⟨[], head :: rest, rfl, by simp [Scheduler.insert, Ticket.appointment, earlier]⟩
    · obtain ⟨before, after, split, inserted⟩ := ih
      refine ⟨head :: before, after, by rw [split, List.cons_append], ?_⟩
      simp only [List.map_cons, Scheduler.insert, List.cons_append]
      rw [if_neg (by exact earlier), inserted]

/-- The world after a registration that is due at a given time. -/
def enrolled (due : Int) (code : κ) (w : World (Ticket κ) (Diary κ μ)) :
    World (Ticket κ) (Diary κ μ) :=
  let ticket : Ticket κ := ⟨w.memory.registered.length, due, code⟩
  { w.register due (.task ticket) with
    memory := { w.memory with registered := w.memory.registered ++ [ticket] } }

theorem enrollAfter_apply {delay : Int} (nonneg : 0 ≤ delay) (code : κ)
    (w : World (Ticket κ) (Diary κ μ)) :
    enrollAfter delay code w = .ok () (enrolled (w.now + delay) code w) :=
  bind_ok (schedule_apply nonneg _ w) _

theorem enrollAfter_past {delay : Int} (negative : delay < 0) (code : κ)
    (w : World (Ticket κ) (Diary κ μ)) :
    enrollAfter delay code w = .error (.failure (Failure.pastDelay delay).settled) w :=
  bind_error (schedule_past negative _ w) _

theorem enrollAt_apply (time : Int) (code : κ) (w : World (Ticket κ) (Diary κ μ)) :
    enrollAt time code w = .ok () (enrolled (max w.now time) code w) :=
  bind_ok (scheduleAt_apply time _ w) _

/-- A ticket that has fired is one of those registered, so the next number is not taken. -/
theorem Consistent.number_lt {w : World (Ticket κ) (Diary κ μ)} (consistent : Consistent w)
    {f : Firing κ} (fired : f ∈ w.memory.fired) : f.ticket.number < w.memory.registered.length := by
  have known : f.ticket ∈ w.memory.registered :=
    consistent.conserved.mem_iff.mp (List.mem_append_left _ (List.mem_map_of_mem fired))
  have number := List.mem_map_of_mem (f := Ticket.number) known
  rw [consistent.numbered] at number
  exact List.mem_range.mp number

theorem Consistent.enrolled {w : World (Ticket κ) (Diary κ μ)} (consistent : Consistent w)
    {due : Int} (code : κ) (later : w.now ≤ due) : Consistent (enrolled due code w) := by
  let ticket : Ticket κ := ⟨w.memory.registered.length, due, code⟩
  obtain ⟨before, after, split, inserted⟩ := insert_appointment ticket (waiting w)
  have queue : (FiringOrder.enrolled due code w).scheduler.pending =
      (before ++ ticket :: after).map Ticket.appointment := by
    rw [← inserted, ← consistent.queued]
    change Scheduler.insert ⟨due, w.scheduler.issued, .task ticket⟩ w.scheduler.pending = _
    rw [consistent.issued]
    rfl
  have now_waiting := waiting_eq queue
  have member : ∀ t, t ∈ waiting (FiringOrder.enrolled due code w) ↔ t = ticket ∨ t ∈ waiting w := by
    intro t
    rw [now_waiting, split]
    simp only [List.mem_append, List.mem_cons]
    exact or_left_comm
  refine ⟨?_, ?_, ?_, ?_, consistent.ordered, consistent.punctual, consistent.past, ?_, ?_⟩
  · simp [FiringOrder.enrolled, consistent.numbered, List.range_succ]
  · change w.scheduler.issued + 1 = (w.memory.registered ++ [ticket]).length
    rw [consistent.issued, List.length_append, List.length_singleton]
  · rw [now_waiting, queue]
  · have grown := consistent.conserved.append_right [ticket]
    rw [now_waiting]
    refine List.Perm.trans ?_ grown
    rw [split, List.append_assoc]
    refine List.Perm.append_left _ ?_
    rw [List.append_assoc]
    exact List.Perm.append_left _ (List.perm_append_singleton _ _).symm
  · intro t waits
    rcases (member t).mp waits with rfl | waits
    · exact later
    · exact consistent.future t waits
  · intro f fired t waits
    rcases (member t).mp waits with rfl | waits
    · have := consistent.past f fired
      have := consistent.number_lt fired
      by_cases same : f.ticket.due = due
      · exact .inr ⟨same, this⟩
      · exact .inl (by change f.ticket.due < due; omega)
    · exact consistent.ahead f fired t waits

/-- What the code of a callback may do to a consistent world: register and stop, but neither move
the clock nor count events or returns. -/
structure Undisturbed (w w' : World (Ticket κ) (Diary κ μ)) : Prop where
  consistent : Consistent w'
  now : w'.now = w.now
  processed : w'.scheduler.processed = w.scheduler.processed
  returned : w'.memory.returned = w.memory.returned

theorem Undisturbed.trans {w w' w'' : World (Ticket κ) (Diary κ μ)} (first : Undisturbed w w')
    (second : Undisturbed w' w'') : Undisturbed w w'' :=
  ⟨second.consistent, second.now.trans first.now, second.processed.trans first.processed,
    second.returned.trans first.returned⟩

theorem Consistent.undisturbed {w : World (Ticket κ) (Diary κ μ)} (consistent : Consistent w) :
    Undisturbed w w := ⟨consistent, rfl, rfl, rfl⟩

theorem enrollAfter_undisturbed (delay : Int) (code : κ) {w : World (Ticket κ) (Diary κ μ)}
    (consistent : Consistent w) : Undisturbed w (final (enrollAfter delay code) w) := by
  by_cases negative : delay < 0
  · rw [final_error (enrollAfter_past negative code w)]
    exact consistent.undisturbed
  · rw [final_ok (enrollAfter_apply (by omega) code w)]
    exact ⟨consistent.enrolled code (by omega), rfl, rfl, rfl⟩

theorem enrollAt_undisturbed (time : Int) (code : κ) {w : World (Ticket κ) (Diary κ μ)}
    (consistent : Consistent w) : Undisturbed w (final (enrollAt time code) w) := by
  rw [final_ok (enrollAt_apply time code w)]
  exact ⟨consistent.enrolled code (by omega), rfl, rfl, rfl⟩

/-- Nothing that leaves the scheduler and the diary alone can make a world inconsistent. -/
theorem Consistent.of_same {w w' : World (Ticket κ) (Diary κ μ)} (consistent : Consistent w)
    (pending : w'.scheduler.pending = w.scheduler.pending)
    (issued : w'.scheduler.issued = w.scheduler.issued) (now : w'.now = w.now)
    (registered : w'.memory.registered = w.memory.registered)
    (fired : w'.memory.fired = w.memory.fired) : Consistent w' := by
  have same : waiting w' = waiting w := by rw [waiting, pending, waiting]
  constructor
  · rw [registered]; exact consistent.numbered
  · rw [issued, registered]; exact consistent.issued
  · rw [pending, same]; exact consistent.queued
  · rw [fired, same, registered]; exact consistent.conserved
  · rw [fired]; exact consistent.ordered
  · rw [fired]; exact consistent.punctual
  · rw [fired, now]; exact consistent.past
  · rw [same, now]; exact consistent.future
  · rw [fired, same]; exact consistent.ahead

/-- The code of a callback keeps the books, whether it returns or raises. -/
theorem Program.exec_undisturbed (p : Program κ μ) {w : World (Ticket κ) (Diary κ μ)}
    (consistent : Consistent w) : Undisturbed w (final p.exec w) := by
  induction p generalizing w with
  | finish => exact consistent.undisturbed
  | raise f => exact consistent.undisturbed
  | schedule delay code next ih =>
    have first := enrollAfter_undisturbed delay code consistent
    exact final_bind first fun _ _ _ kept => kept.trans (ih kept.consistent)
  | scheduleAt time code next ih =>
    have first := enrollAt_undisturbed time code consistent
    exact final_bind first fun _ _ _ kept => kept.trans (ih kept.consistent)
  | stop next ih =>
    have stopped : Undisturbed w { w with scheduler := w.scheduler.stop } :=
      ⟨consistent.of_same rfl rfl rfl rfl rfl, rfl, rfl, rfl⟩
    exact stopped.trans (ih stopped.consistent)
  | alter change next ih =>
    have altered : Undisturbed w (altered change w) :=
      ⟨consistent.of_same rfl rfl rfl rfl rfl, rfl, rfl, rfl⟩
    exact altered.trans (ih altered.consistent)
  | consult next ih => exact ih w consistent

end MoteTrial.FiringOrder
