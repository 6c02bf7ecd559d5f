import MoteTrial.Scenario

/-! # Execution of operations on a world

How sequences of operations are carried out, one equation for each way of composing them, and the
world that an operation leaves behind whether it succeeds or is interrupted. Proofs about a run cite
these equations instead of opening the monad.
-/

namespace MoteTrial.SimM

section Steps

variable {ε σ α β : Type} {w w' : σ}

@[simp] theorem pure_apply (a : α) (w : σ) : (pure a : EStateM ε σ α) w = .ok a w := rfl

@[simp] theorem get_bind_apply (f : σ → EStateM ε σ α) (w : σ) : (get >>= f) w = f w w := rfl

@[simp] theorem modify_apply (g : σ → σ) (w : σ) :
    (modify g : EStateM ε σ Unit) w = .ok () (g w) := rfl

@[simp] theorem modify_bind_apply (g : σ → σ) (f : Unit → EStateM ε σ β) (w : σ) :
    (modify g >>= f) w = f () (g w) := rfl

theorem bind_ok {m : EStateM ε σ α} {a : α} (run : m w = .ok a w') (f : α → EStateM ε σ β) :
    (m >>= f) w = f a w' := by
  change EStateM.bind m f w = _
  simp only [EStateM.bind, run]

theorem bind_error {m : EStateM ε σ α} {i : ε} (run : m w = .error i w')
    (f : α → EStateM ε σ β) : (m >>= f) w = .error i w' := by
  change EStateM.bind m f w = _
  simp only [EStateM.bind, run]

/-- A sequence that succeeds has parts that do. -/
theorem parts_of_bind {m : EStateM ε σ α} {f : α → EStateM ε σ β} {b : β}
    (run : (m >>= f) w = .ok b w') : ∃ a between, m w = .ok a between ∧ f a between = .ok b w' := by
  cases first : m w with
  | ok a between =>
    rw [bind_ok first] at run
    exact ⟨a, between, rfl, run⟩
  | error i between =>
    rw [bind_error first] at run
    cases run

/-- Operations with the same result go on alike. -/
theorem bind_same {m m' : EStateM ε σ α} (same : m w = m' w') (f : α → EStateM ε σ β) :
    (m >>= f) w = (m' >>= f) w' := by
  change EStateM.bind m f w = EStateM.bind m' f w'
  simp only [EStateM.bind, same]

theorem bind_unit_apply (m : EStateM ε σ Unit) (w : σ) :
    (m >>= fun _ => pure ()) w = m w := by
  cases run : m w with
  | ok _ w' => rw [bind_ok run, pure_apply]
  | error i w' => rw [bind_error run]

/-- A result that, if it is an answer, leaves a state that goes with the answer. -/
def Returns (P : α → σ → Prop) : EStateM.Result ε σ α → Prop
  | .ok a w => P a w
  | .error _ _ => True

theorem Returns.bind {P : α → σ → Prop} {Q : β → σ → Prop} {m : EStateM ε σ α}
    {f : α → EStateM ε σ β} (first : Returns P (m w)) (rest : ∀ a w, P a w → Returns Q (f a w)) :
    Returns Q ((m >>= f) w) := by
  cases run : m w with
  | ok a w' =>
    rw [run] at first
    rw [bind_ok run]
    exact rest a w' first
  | error i w' =>
    rw [bind_error run]
    trivial

theorem Returns.imp {P Q : α → σ → Prop} {r : EStateM.Result ε σ α} (returns : Returns P r)
    (better : ∀ a w, P a w → Q a w) : Returns Q r := by
  cases r with
  | ok a w => exact better a w returns
  | error i w => trivial

/-- A result that leaves a state that goes with the answer, or one that goes with a failure. -/
def Leaves (P : α → σ → Prop) (E : σ → Prop) : EStateM.Result ε σ α → Prop
  | .ok a w => P a w
  | .error _ w => E w

theorem Leaves.bind {P : α → σ → Prop} {Q : β → σ → Prop} {E : σ → Prop} {m : EStateM ε σ α}
    {f : α → EStateM ε σ β} (first : Leaves P E (m w)) (rest : ∀ a w, P a w → Leaves Q E (f a w)) :
    Leaves Q E ((m >>= f) w) := by
  cases run : m w with
  | ok a w' =>
    rw [run] at first
    rw [bind_ok run]
    exact rest a w' first
  | error i w' =>
    rw [run] at first
    rw [bind_error run]
    exact first

theorem Leaves.imp {P Q : α → σ → Prop} {E E' : σ → Prop} {r : EStateM.Result ε σ α}
    (leaves : Leaves P E r) (better : ∀ a w, P a w → Q a w) (worse : ∀ w, E w → E' w) :
    Leaves Q E' r := by
  cases r with
  | ok a w => exact better a w leaves
  | error i w => exact worse w leaves

theorem Leaves.weaken {P : α → σ → Prop} {E E' : σ → Prop} {r : EStateM.Result ε σ α}
    (leaves : Leaves P E r) (worse : ∀ w, E w → E' w) : Leaves P E' r :=
  leaves.imp (fun _ _ holds => holds) worse

end Steps

variable {κ μ : Type} {α β : Type} {w w' : World κ μ}

@[simp] theorem fail_apply (f : Failure) (w : World κ μ) :
    (fail f : SimM κ μ α) w = .error (.failure f.settled) w := rfl

@[simp] theorem ofExcept_ok_bind_apply (a : α) (f : α → SimM κ μ β) (w : World κ μ) :
    (ofExcept (.ok a) >>= f) w = f a w := rfl

@[simp] theorem ofExcept_error_bind_apply (e : Failure) (f : α → SimM κ μ β) (w : World κ μ) :
    ((ofExcept (.error e) : SimM κ μ α) >>= f) w = .error (.failure e.settled) w := rfl

theorem onMedium_ok {f : Config → Medium → Except Failure (α × Medium)} {a : α} {m : Medium}
    (run : f w.config w.medium = .ok (a, m)) : onMedium f w = .ok a { w with medium := m } := by
  simp only [onMedium, get_bind_apply, run, ofExcept_ok_bind_apply, modify_bind_apply, pure_apply]

theorem onMedium_error {f : Config → Medium → Except Failure (α × Medium)} {e : Failure}
    (run : f w.config w.medium = .error e) :
    onMedium f w = .error (.failure e.settled) w := by
  simp only [onMedium, get_bind_apply, run, ofExcept_error_bind_apply]

/-- The world that an operation leaves behind. -/
def final (m : SimM κ μ α) (w : World κ μ) : World κ μ :=
  match m w with
  | .ok _ w => w
  | .error _ w => w

theorem final_ok {m : SimM κ μ α} {a : α} (run : m w = .ok a w') : final m w = w' := by
  simp only [final, run]

theorem final_error {m : SimM κ μ α} {i : Interrupt} (run : m w = .error i w') :
    final m w = w' := by
  simp only [final, run]

/-- The failure of an operation. -/
def failure? (m : SimM κ μ α) (w : World κ μ) : Option Failure :=
  match m w with
  | .error (.failure f) _ => some f
  | _ => none

/-- A property that two operations both keep is kept by their sequence. -/
theorem final_bind {P : World κ μ → Prop} {m : SimM κ μ α} {f : α → SimM κ μ β}
    (first : P (final m w)) (second : ∀ a w', m w = .ok a w' → P w' → P (final (f a) w')) :
    P (final (m >>= f) w) := by
  cases run : m w with
  | ok a w' =>
    rw [final_ok run] at first
    have rest := second a w' run first
    simpa only [final, bind_ok run] using rest
  | error i w' =>
    rw [final_error run] at first
    simpa only [final, bind_error run] using first

/-- The result of an operation that never runs out of fuel: what holds of its answer and of the world
if it succeeds, and of its failure and of the world if it fails. -/
def Yields (good : α → World κ μ → Prop) (bad : Failure → World κ μ → Prop) :
    EStateM.Result Interrupt (World κ μ) α → Prop
  | .ok a w => good a w
  | .error (.failure f) w => bad f w
  | .error .exhausted _ => False

section Yields

variable {good : α → World κ μ → Prop} {good' : β → World κ μ → Prop}
  {bad bad' : Failure → World κ μ → Prop} {m : SimM κ μ α} {f : α → SimM κ μ β}

theorem Yields.bind (first : Yields good bad (m w))
    (rest : ∀ a w', good a w' → Yields good' bad (f a w')) : Yields good' bad ((m >>= f) w) := by
  cases run : m w with
  | ok a w' =>
    rw [run] at first
    rw [bind_ok run]
    exact rest a w' first
  | error i w' =>
    rw [run] at first
    rw [bind_error run]
    cases i with
    | failure f => exact first
    | exhausted => exact first.elim

theorem Yields.imp {good' : α → World κ μ → Prop} {r : EStateM.Result Interrupt (World κ μ) α}
    (yields : Yields good bad r) (better : ∀ a w, good a w → good' a w)
    (worse : ∀ f w, bad f w → bad' f w) : Yields good' bad' r := by
  cases r with
  | ok a w => exact better a w yields
  | error i w =>
    cases i with
    | failure f => exact worse f w yields
    | exhausted => exact yields.elim

end Yields

end MoteTrial.SimM

namespace MoteTrial

open SimM

variable {κ μ : Type}

/-- A fresh simulation in which every draw is zero. -/
def World.plain (memory : μ) : World κ μ :=
  ofChance Config.standard (.tape (fun _ => 0) 0) (.tape (fun _ => 0) 0) {} memory

/-- The world with a further event, due at the given time. -/
def World.register (due : Int) (event : Event κ) (w : World κ μ) : World κ μ :=
  { w with scheduler := w.scheduler.register due event }

/-- If no event is past, none is once one that is not is added. -/
theorem World.timely_register {w : World κ μ} (timely : ∀ a ∈ w.scheduler.pending, w.now ≤ a.due)
    {due : Int} (later : w.now ≤ due) (event : Event κ) :
    ∀ a ∈ (w.register due event).scheduler.pending, w.now ≤ a.due := by
  intro a member
  rcases Scheduler.mem_insert.mp member with rfl | earlier
  · exact later
  · exact timely a earlier

namespace Scheduler

variable {α : Type} {s s' : Scheduler α} {a : Appointment α}

/-- Taking the next event sets the clock to its due time and changes nothing else but the queue. -/
structure Takes (s : Scheduler α) (a : Appointment α) (s' : Scheduler α) : Prop where
  pending : s.pending = a :: s'.pending
  now : s'.now = a.due
  issued : s'.issued = s.issued
  stopped : s'.stopped = s.stopped
  processed : s'.processed = s.processed

theorem takes_of_next? (next : s.next? = some (a, s')) : s.Takes a s' := by
  unfold next? at next
  split at next
  · cases next
  · rename_i head rest shape
    cases next
    exact ⟨shape, rfl, rfl, rfl, rfl⟩

theorem next?_eq_none_iff : s.next? = none ↔ s.pending = [] := by
  unfold next?
  split
  · rename_i shape
    simp only [shape]
  · rename_i head rest shape
    simp only [shape, reduceCtorEq]

theorem next?_of_pending {rest : List (Appointment α)} (shape : s.pending = a :: rest) :
    ∃ s', s.next? = some (a, s') := by
  cases next : s.next? with
  | none => rw [next?_eq_none_iff.mp next] at shape; cases shape
  | some found =>
    obtain ⟨b, s'⟩ := found
    have first := (takes_of_next? next).pending.symm.trans shape
    rw [(List.cons.inj first).1]
    exact ⟨s', rfl⟩

theorem nextDue?_of_takes (takes : s.Takes a s') : s.nextDue? = some a.due := by
  rw [nextDue?, takes.pending]
  rfl

/-- The event that is taken comes before all that remain. -/
theorem Takes.before (takes : s.Takes a s') : ∀ b ∈ s'.pending, a.Before b :=
  (List.pairwise_cons.mp (takes.pending ▸ s.ordered)).1

theorem insert_perm (a : Appointment α) (pending : List (Appointment α)) :
    (insert a pending).Perm (a :: pending) := by
  induction pending with
  | nil => exact .refl _
  | cons b rest ih =>
    simp only [insert]
    split
    · exact .refl _
    · exact (ih.cons b).trans (.swap a b rest)

theorem due_le_of_nextDue? {due : Int} (next : s.nextDue? = some due) :
    ∀ b ∈ s.pending, due ≤ b.due := by
  obtain ⟨head, first, rfl⟩ := Option.map_eq_some_iff.mp next
  obtain ⟨rest, shape⟩ := List.head?_eq_some_iff.mp first
  have sorted := s.ordered
  rw [shape] at sorted ⊢
  intro b member
  rcases List.mem_cons.mp member with rfl | member
  · exact Int.le_refl _
  · rcases (List.pairwise_cons.mp sorted).1 b member with sooner | ⟨same, _⟩
    · exact Int.le_of_lt sooner
    · exact Int.le_of_eq same

end Scheduler

/-- The world once the event that it was carrying out is done. -/
def World.finishEvent (w : World κ μ) : World κ μ :=
  { w with scheduler := w.scheduler.finishEvent }

namespace Simulation

section Loop

variable {fire : Event κ → SimM κ μ Unit} {w w' : World κ μ} {a : Appointment (Event κ)}
  {s : Scheduler (Event κ)}

theorem step_stopped (stopped : w.scheduler.stopped = true) : step fire w = .ok false w := by
  unfold step
  rw [get_bind_apply, if_pos stopped]
  rfl

theorem step_idle (idle : w.scheduler.next? = none) : step fire w = .ok false w := by
  unfold step
  rw [get_bind_apply]
  split
  · rfl
  · simp only [idle]
    rfl

theorem step_ok (running : w.scheduler.stopped = false) (next : w.scheduler.next? = some (a, s))
    (fired : fire a.event { w with scheduler := s } = .ok () w') :
    step fire w = .ok true w'.finishEvent := by
  unfold step
  rw [get_bind_apply, if_neg (by simp [running])]
  simp only [next, modify_bind_apply]
  exact bind_ok fired _

theorem step_error {i : Interrupt} (running : w.scheduler.stopped = false)
    (next : w.scheduler.next? = some (a, s))
    (fired : fire a.event { w with scheduler := s } = .error i w') :
    step fire w = .error i w' := by
  unfold step
  rw [get_bind_apply, if_neg (by simp [running])]
  simp only [next, modify_bind_apply]
  exact bind_error fired _

variable {bound : Option Int} {fuel : Nat}

theorem run_stopped (stopped : w.scheduler.stopped = true) :
    run fire bound (fuel + 1) w = .ok w.now w := by
  unfold run
  rw [get_bind_apply, if_pos stopped]
  rfl

theorem run_idle (idle : w.scheduler.nextDue? = none) :
    run fire bound (fuel + 1) w = .ok w.now w := by
  unfold run
  rw [get_bind_apply]
  split
  · rfl
  · simp only [idle]
    rfl

theorem run_paused {due limit : Int} (running : w.scheduler.stopped = false)
    (next : w.scheduler.nextDue? = some due) (later : limit < due) :
    run fire (some limit) (fuel + 1) w =
      .ok limit { w with scheduler := w.scheduler.setNow limit } := by
  unfold run
  rw [get_bind_apply, if_neg (by simp [running])]
  simp only [next, later, ↓reduceIte]
  rfl

theorem run_fires {due : Int} (running : w.scheduler.stopped = false)
    (next : w.scheduler.nextDue? = some due) (soon : ∀ limit ∈ bound, due ≤ limit) :
    run fire bound (fuel + 1) w = (step fire >>= fun _ => run fire bound fuel) w := by
  rw [run, get_bind_apply, if_neg (by simp [running])]
  cases bound with
  | none => simp only [next]
  | some limit =>
    have := soon limit rfl
    simp only [next, if_neg (show ¬ limit < due by omega)]

end Loop

theorem schedule_apply {delay : Int} (nonneg : 0 ≤ delay) (event : Event κ) (w : World κ μ) :
    schedule delay event w = .ok () (w.register (w.now + delay) event) := by
  have accepted : w.scheduler.schedule delay event =
      .ok (w.scheduler.register (w.now + delay) event) := by
    rw [Scheduler.schedule, if_neg (by omega)]
    rfl
  simp only [schedule, onScheduler, get_bind_apply, accepted]
  rfl

theorem schedule_past {delay : Int} (negative : delay < 0) (event : Event κ) (w : World κ μ) :
    schedule delay event w = .error (.failure (Failure.pastDelay delay).settled) w := by
  have refused : w.scheduler.schedule delay event = .error (.pastDelay delay) := by
    rw [Scheduler.schedule, if_pos negative]
  simp only [schedule, onScheduler, get_bind_apply, refused]
  rfl

theorem scheduleAt_apply (time : Int) (event : Event κ) (w : World κ μ) :
    scheduleAt time event w = .ok () (w.register (max w.now time) event) := by
  simp only [scheduleAt, onScheduler, get_bind_apply, Scheduler.scheduleAt_eq]
  rfl

end Simulation

end MoteTrial
