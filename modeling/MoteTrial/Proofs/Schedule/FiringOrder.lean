import MoteTrial.Proofs.Schedule.Tickets

/-! # The order in which callbacks fire

The diary of every session of `schedule`, `scheduleAt`, `step` and `run` shows that callbacks start
when they are due, in order of due time and registration, and that none is lost or fires twice.
-/

namespace MoteTrial.FiringOrder

open SimM Simulation

variable {κ μ : Type}

/-- The world in which the next callback starts. -/
def started (t : Ticket κ) (scheduler : Scheduler (Event (Ticket κ)))
    (w : World (Ticket κ) (Diary κ μ)) : World (Ticket κ) (Diary κ μ) :=
  { w with
    scheduler
    memory := { w.memory with fired := w.memory.fired ++ [⟨t, scheduler.now⟩] } }

/-- The head of the queue is the appointment of a waiting ticket. -/
theorem Consistent.head {w : World (Ticket κ) (Diary κ μ)} (consistent : Consistent w)
    {a : Appointment (Event (Ticket κ))} {scheduler : Scheduler (Event (Ticket κ))}
    (takes : w.scheduler.Takes a scheduler) :
    ∃ t rest, waiting w = t :: rest ∧ a = t.appointment := by
  have shape := consistent.queued.symm.trans takes.pending
  obtain ⟨t, rest, queue, head, _⟩ := List.map_eq_cons_iff.mp shape
  exact ⟨t, rest, queue, head.symm⟩

section Start

variable {w : World (Ticket κ) (Diary κ μ)} {t : Ticket κ} {rest : List (Ticket κ)}
  {scheduler : Scheduler (Event (Ticket κ))}

/-- The appointments that are left are those of the other waiting tickets. -/
theorem Consistent.pending_rest (consistent : Consistent w) (queue : waiting w = t :: rest)
    (takes : w.scheduler.Takes t.appointment scheduler) :
    scheduler.pending = rest.map Ticket.appointment := by
  have shape := consistent.queued
  rw [queue, takes.pending] at shape
  exact (List.cons.inj shape).2

theorem fired_started (takes : w.scheduler.Takes t.appointment scheduler) :
    (started t scheduler w).memory.fired = w.memory.fired ++ [⟨t, t.due⟩] := by
  change w.memory.fired ++ [⟨t, scheduler.now⟩] = _
  rw [takes.now]
  rfl

/-- Starting the callback at the head of the queue moves its ticket from the queue to the record of
firings. -/
theorem Consistent.started (consistent : Consistent w) (queue : waiting w = t :: rest)
    (takes : w.scheduler.Takes t.appointment scheduler) : Consistent (started t scheduler w) := by
  have pending := consistent.pending_rest queue takes
  have remaining : waiting (FiringOrder.started t scheduler w) = rest := waiting_eq pending
  have now : (FiringOrder.started t scheduler w).now = t.due := takes.now
  have head : t ∈ waiting w := by simp [queue]
  have waits : ∀ u ∈ rest, u ∈ waiting w := by
    intro u member
    rw [queue]
    exact List.mem_cons_of_mem _ member
  have behind : ∀ u ∈ rest, t.Before u := by
    intro u member
    have first := takes.before u.appointment (pending ▸ List.mem_map_of_mem member)
    exact first
  have fired : ∀ f ∈ w.memory.fired ++ [(⟨t, t.due⟩ : Firing κ)],
      f ∈ w.memory.fired ∨ f = ⟨t, t.due⟩ := by
    intro f member
    rwa [List.mem_append, List.mem_singleton] at member
  constructor
  · exact consistent.numbered
  · exact takes.issued.trans consistent.issued
  · rw [remaining]
    exact pending
  · have conserved := consistent.conserved
    rw [queue] at conserved
    rw [remaining, fired_started takes, List.map_append, List.append_assoc]
    exact conserved
  · rw [fired_started takes, List.map_append, List.pairwise_append]
    refine ⟨consistent.ordered, List.pairwise_singleton _ _, ?_⟩
    intro earlier before later member
    obtain ⟨f, started, rfl⟩ := List.mem_map.mp before
    rw [List.map_singleton, List.mem_singleton] at member
    rw [member]
    exact consistent.ahead f started t head
  · intro f member
    rw [fired_started takes] at member
    rcases fired f member with before | rfl
    · exact consistent.punctual f before
    · rfl
  · intro f member
    rw [fired_started takes] at member
    rw [now]
    rcases fired f member with before | rfl
    · exact Int.le_trans (consistent.past f before) (consistent.future t head)
    · exact Int.le_refl _
  · intro u member
    rw [remaining] at member
    rw [now]
    rcases behind u member with sooner | ⟨same, _⟩
    · exact Int.le_of_lt sooner
    · exact Int.le_of_eq same
  · intro f member u later
    rw [fired_started takes] at member
    rw [remaining] at later
    rcases fired f member with before | rfl
    · exact consistent.ahead f before u (waits u later)
    · exact behind u later

end Start

/-- What holds between two requests: consistent books, and one return for each event processed. -/
structure Settled (w : World (Ticket κ) (Diary κ μ)) : Prop where
  consistent : Consistent w
  counted : w.scheduler.processed = w.memory.returned.length

theorem Undisturbed.settled {w w' : World (Ticket κ) (Diary κ μ)} (kept : Undisturbed w w')
    (settled : Settled w) : Settled w' :=
  ⟨kept.consistent, by rw [kept.processed, kept.returned]; exact settled.counted⟩

/-- The world once a callback has noted its return. -/
def returned (t : Ticket κ) (w : World (Ticket κ) (Diary κ μ)) : World (Ticket κ) (Diary κ μ) :=
  { w with memory := { w.memory with returned := w.memory.returned ++ [t] } }

/-- How a callback goes: its code is carried out in the world in which it starts; if it returns,
its return is noted, otherwise its failure goes on. -/
theorem fire_task (code : κ → Program κ μ) (t : Ticket κ)
    (w : World (Ticket κ) (Diary κ μ)) :
    fire (behaviour code) (.task t) w =
      match (code t.code).exec (started t w.scheduler w) with
      | .ok _ w' => .ok () (returned t w')
      | .error i w' => .error i w' := by
  change EStateM.bind (behaviour code t .due) _ w = _
  have run : behaviour code t .due w =
      match (code t.code).exec (started t w.scheduler w) with
      | .ok _ w' => .ok false (returned t w')
      | .error i w' => .error i w' := by
    cases done : (code t.code).exec (started t w.scheduler w) with
    | ok u w' => exact bind_ok done _
    | error i w' => exact bind_error done _
  rw [EStateM.bind, run]
  cases (code t.code).exec (started t w.scheduler w) <;> rfl

/-- Moving the clock forward, but not past what waits, keeps the books. -/
theorem Consistent.setNow {w : World (Ticket κ) (Diary κ μ)} (consistent : Consistent w)
    {limit : Int} (forward : w.now ≤ limit) (reach : ∀ t ∈ waiting w, limit ≤ t.due) :
    Consistent { w with scheduler := w.scheduler.setNow limit } :=
  { consistent with
    past := fun f fired => Int.le_trans (consistent.past f fired) forward
    future := reach }

/-- One step keeps the books settled and moves the clock at most to the next due time. -/
theorem settled_step (code : κ → Program κ μ) {w : World (Ticket κ) (Diary κ μ)}
    (settled : Settled w) :
    Settled (final (step (fire (behaviour code))) w) ∧
      ((final (step (fire (behaviour code))) w).now = w.now ∨
        w.scheduler.nextDue? = some (final (step (fire (behaviour code))) w).now) := by
  by_cases stopped : w.scheduler.stopped = true
  · rw [final_ok (step_stopped stopped)]
    exact ⟨settled, .inl rfl⟩
  replace stopped : w.scheduler.stopped = false := by simpa using stopped
  cases next : w.scheduler.next? with
  | none =>
    rw [final_ok (step_idle next)]
    exact ⟨settled, .inl rfl⟩
  | some found =>
    obtain ⟨a, scheduler⟩ := found
    have takes := Scheduler.takes_of_next? next
    obtain ⟨t, rest, queue, rfl⟩ := settled.consistent.head takes
    have due := Scheduler.nextDue?_of_takes takes
    have start : started t scheduler { w with scheduler } = started t scheduler w := rfl
    have consistent := settled.consistent.started queue takes
    have kept := (code t.code).exec_undisturbed consistent
    have clock : (started t scheduler w).now = t.due := takes.now
    have fired := fire_task code t { w with scheduler }
    rw [start] at fired
    cases run : (code t.code).exec (started t scheduler w) with
    | ok u w' =>
      rw [final_ok run] at kept
      rw [run] at fired
      rw [final_ok (step_ok stopped next fired)]
      refine ⟨⟨kept.consistent.of_same rfl rfl rfl rfl rfl, ?_⟩, .inr ?_⟩
      · change w'.scheduler.processed + 1 = (w'.memory.returned ++ [t]).length
        rw [kept.processed, kept.returned, List.length_append, List.length_singleton]
        change scheduler.processed + 1 = w.memory.returned.length + 1
        rw [takes.processed, settled.counted]
      · rw [due]
        exact congrArg some (clock.symm.trans kept.now.symm)
    | error i w' =>
      rw [final_error run] at kept
      rw [run] at fired
      rw [final_error (step_error stopped next fired)]
      refine ⟨⟨kept.consistent, ?_⟩, .inr ?_⟩
      · rw [kept.processed, kept.returned]
        exact takes.processed.trans settled.counted
      · rw [due]
        exact congrArg some (clock.symm.trans kept.now.symm)

/-- A run whose bound is not past keeps the books settled, wherever it ends. -/
theorem settled_run (code : κ → Program κ μ) (bound : Option Int) (fuel : Nat)
    {w : World (Ticket κ) (Diary κ μ)} (settled : Settled w)
    (present : ∀ limit ∈ bound, w.now ≤ limit) :
    Settled (final (run (fire (behaviour code)) bound fuel) w) := by
  induction fuel generalizing w with
  | zero => exact settled
  | succ fuel ih =>
    by_cases stopped : w.scheduler.stopped = true
    · rw [final_ok (run_stopped stopped)]
      exact settled
    replace stopped : w.scheduler.stopped = false := by simpa using stopped
    cases next : w.scheduler.nextDue? with
    | none =>
      rw [final_ok (run_idle next)]
      exact settled
    | some due =>
      by_cases soon : ∀ limit ∈ bound, due ≤ limit
      · obtain ⟨first, clock⟩ := settled_step code settled
        have rest : final (run (fire (behaviour code)) bound (fuel + 1)) w =
            final (step (fire (behaviour code)) >>= fun _ => run (fire (behaviour code)) bound fuel)
              w := by
          rw [final, final, run_fires stopped next soon]
        rw [rest]
        refine final_bind first ?_
        intro _ w' stepped settled'
        apply ih settled'
        intro limit bounded
        rw [final_ok stepped, next] at clock
        rcases clock with same | moved
        · rw [same]
          exact present limit bounded
        · rw [← Option.some.inj moved]
          exact soon limit bounded
      · -- the run pauses: every event that waits is due after the bound
        obtain ⟨limit, bounded, later⟩ : ∃ limit, bound = some limit ∧ limit < due := by
          simpa using soon
        subst bounded
        rw [final_ok (run_paused stopped next later)]
        have reach : ∀ t ∈ waiting w, limit ≤ t.due := by
          intro t waits
          have queued : t.appointment ∈ w.scheduler.pending := by
            rw [settled.consistent.queued]
            exact List.mem_map_of_mem waits
          have head := Scheduler.due_le_of_nextDue? next t.appointment queued
          exact Int.le_trans (Int.le_of_lt later) head
        exact ⟨settled.consistent.setNow (present limit rfl) reach, settled.counted⟩

theorem settled_perform (code : κ → Program κ μ) (r : Request κ)
    {w : World (Ticket κ) (Diary κ μ)} (settled : Settled w) (admissible : r.Admissible w) :
    Settled (final (r.perform code) w) := by
  cases r with
  | schedule delay c => exact (enrollAfter_undisturbed delay c settled.consistent).settled settled
  | scheduleAt time c => exact (enrollAt_undisturbed time c settled.consistent).settled settled
  | step => exact final_bind (settled_step code settled).1 fun _ _ _ kept => kept
  | run bound fuel =>
    have present : ∀ limit ∈ bound, w.now ≤ limit := by
      intro limit bounded
      cases bounded
      exact admissible
    exact final_bind (settled_run code bound fuel settled present) fun _ _ _ kept => kept

theorem Reachable.settled {code : κ → Program κ μ} {w : World (Ticket κ) (Diary κ μ)}
    (reachable : Reachable code w) : Settled w := by
  induction reachable with
  | fresh clock blank =>
    refine ⟨consistent_fresh clock blank, ?_⟩
    rw [clock, blank]
    rfl
  | request _ admissible ih => exact settled_perform code _ ih admissible

/-- In every session, callbacks start in strictly increasing order of due time and registration
number, each exactly when it is due; the registered ones are those that have started and those that
still wait in the queue, each once, also when callbacks raise; and the number of events processed is
the number of callbacks that have returned. A delay counts from now, and a time that is past is
now. -/
theorem fired_in_order {code : κ → Program κ μ} {w : World (Ticket κ) (Diary κ μ)}
    (reachable : Reachable code w) :
    (w.memory.fired.map Firing.ticket).Pairwise Ticket.Before ∧
    (∀ f ∈ w.memory.fired, f.start = f.ticket.due) ∧
    w.memory.registered.map Ticket.number = List.range w.memory.registered.length ∧
    w.scheduler.pending = (waiting w).map Ticket.appointment ∧
    (w.memory.fired.map Firing.ticket ++ waiting w).Perm w.memory.registered ∧
    w.scheduler.processed = w.memory.returned.length ∧
    (∀ delay c, 0 ≤ delay → enrollAfter delay c w = .ok () (enrolled (w.now + delay) c w)) ∧
    ∀ time c, enrollAt time c w = .ok () (enrolled (max w.now time) c w) := by
  obtain ⟨consistent, counted⟩ := reachable.settled
  exact ⟨consistent.ordered, consistent.punctual, consistent.numbered, consistent.queued,
    consistent.conserved, counted, fun _ c nonneg => enrollAfter_apply nonneg c w,
    fun time c => enrollAt_apply time c w⟩

/-- A callback that schedules another one for the same instant and then raises. -/
def relay : Bool → Program Bool Unit
  | true => .schedule 0 false (.raise .beyondWord)
  | false => .finish

/-- The world in which two callbacks are registered for one instant and the first has been fired. -/
def relaying : World (Ticket Bool) (Diary Bool Unit) :=
  final (Request.step.perform relay) <| final ((Request.scheduleAt 5 false).perform relay) <|
    final ((Request.schedule 5 true).perform relay) <|
    World.plain { own := () }

/-- The world once the rest has been fired as well. -/
def relayed : World (Ticket Bool) (Diary Bool Unit) :=
  final ((Request.run (some 9) 4).perform relay) relaying

theorem reachable_relayed : Reachable relay relayed := by
  have due : relaying.now ≤ 9 := by decide +kernel
  exact .request (.request (.request (.request (.fresh rfl rfl) trivial) trivial) trivial) due

theorem fired_in_order_relayed :
    Reachable relay relayed ∧ relayed.memory.fired.map (·.ticket.number) = [0, 1, 2] ∧
    relayed.scheduler.processed = 2 ∧
    (relayed.memory.fired.map Firing.ticket).Pairwise Ticket.Before ∧
    (∀ f ∈ relayed.memory.fired, f.start = f.ticket.due) ∧
    (relayed.memory.fired.map Firing.ticket ++ waiting relayed).Perm relayed.memory.registered := by
  have order := fired_in_order reachable_relayed
  exact ⟨reachable_relayed, by decide +kernel, by decide +kernel, order.1, order.2.1, order.2.2.2.2.1⟩

end MoteTrial.FiringOrder
