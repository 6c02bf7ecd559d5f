import MoteTrial.Proofs.Session.Operations

/-! # The clock of a session

Whatever users' code does, no pending event is ever due before now, and the clock goes forward, but for
one way back: a run that is asked to stop before now, while events are pending, sets the clock to its
bound. `clock_onward` states this for every moment of every session.
-/

namespace MoteTrial.Session

open SimM Simulation

variable {κ μ : Type}

/-- The worlds of all moments of sessions with a simulation that starts afresh: between operations, and
while an event is carried out. An operation that fails leaves the world that it made so far. -/
inductive Reachable (code : κ → Cue → Program κ μ) : World κ (Diary μ) → Prop where
  | fresh {w : World κ (Diary μ)} (clock : w.scheduler = {}) : Reachable code w
  | acted {w : World κ (Diary μ)} (earlier : Reachable code w) (p : Program κ μ) (limit : Nat) :
      Reachable code (final (p.exec (behaviour code limit) limit) w)
  | taken {w : World κ (Diary μ)} (earlier : Reachable code w) {a : Appointment (Event κ)}
      {s : Scheduler (Event κ)} (next : w.scheduler.next? = some (a, s)) :
      Reachable code { w with scheduler := s }
  | counted {w : World κ (Diary μ)} (earlier : Reachable code w) : Reachable code w.finishEvent

/-- No pending event is past. -/
def Timely (w : World κ (Diary μ)) : Prop := ∀ a ∈ w.scheduler.pending, w.now ≤ a.due

/-- A moment of an operation that began at the time `start` with the bounds `before` noted. The clock
has not gone back if no run has been asked to stop before the start; `limits` have been asked for. -/
structure Onward (start : Int) (before limits : List Int) (w : World κ (Diary μ)) : Prop where
  timely : Timely w
  asked : ∃ asked, w.memory.bounds = before ++ asked ∧ (∀ l ∈ limits, l ∈ asked) ∧
    ((∀ b ∈ asked, start ≤ b) → start ≤ w.now)

namespace Onward

variable {start : Int} {before limits : List Int} {w w' : World κ (Diary μ)}

theorem of_same (onward : Onward start before limits w)
    (pending : w'.scheduler.pending = w.scheduler.pending) (now : w'.now = w.now)
    (bounds : w'.memory.bounds = w.memory.bounds) : Onward start before limits w' := by
  refine ⟨?_, ?_⟩
  · unfold Timely
    rw [pending, now]
    exact onward.timely
  · rw [bounds, now]
    exact onward.asked

theorem registered (onward : Onward start before limits w) {due : Int} (later : w.now ≤ due)
    (event : Event κ) : Onward start before limits (w.register due event) :=
  ⟨World.timely_register onward.timely later event, onward.asked⟩

/-- The next event is not past, so the clock does not go back when it is taken. -/
theorem taken (onward : Onward start before limits w) {a : Appointment (Event κ)}
    {s : Scheduler (Event κ)} (takes : w.scheduler.Takes a s) :
    Onward start before limits { w with scheduler := s } := by
  have now : ({ w with scheduler := s } : World κ (Diary μ)).now = a.due := takes.now
  have forward : w.now ≤ a.due := onward.timely a (by simp [takes.pending])
  obtain ⟨asked, bounds, known, ahead⟩ := onward.asked
  refine ⟨?_, asked, bounds, known, ?_⟩
  · intro b member
    rw [now]
    rcases takes.before b member with sooner | ⟨same, _⟩
    · exact Int.le_of_lt sooner
    · exact Int.le_of_eq same
  · intro all
    rw [now]
    exact Int.le_trans (ahead all) forward

/-- A run pauses before its next event, at a bound that has been asked for. -/
theorem paused (onward : Onward start before limits w) {limit due : Int} (member : limit ∈ limits)
    (next : w.scheduler.nextDue? = some due) (later : limit < due) :
    Onward start before limits { w with scheduler := w.scheduler.setNow limit } := by
  obtain ⟨asked, bounds, known, _⟩ := onward.asked
  refine ⟨?_, asked, bounds, known, fun all => all limit (known limit member)⟩
  intro a pending
  exact Int.le_trans (Int.le_of_lt later) (Scheduler.due_le_of_nextDue? next a pending)

theorem fewer {more : List Int} (onward : Onward start before (more ++ limits) w) :
    Onward start before limits w := by
  obtain ⟨asked, bounds, known, ahead⟩ := onward.asked
  exact ⟨onward.timely, asked, bounds, fun l member => known l (List.mem_append_right _ member), ahead⟩

theorem noted (onward : Onward start before limits w) (bound : Option Int) :
    Onward start before (bound.toList ++ limits)
      { w with memory := { w.memory with bounds := w.memory.bounds ++ bound.toList } } := by
  obtain ⟨asked, bounds, known, ahead⟩ := onward.asked
  refine ⟨onward.timely, asked ++ bound.toList, ?_, ?_, ?_⟩
  · change w.memory.bounds ++ bound.toList = _
    rw [bounds, List.append_assoc]
  · intro l member
    rcases List.mem_append.mp member with new | old
    · exact List.mem_append_right _ new
    · exact List.mem_append_left _ (known l old)
  · intro all
    exact ahead fun b member => all b (List.mem_append_left _ member)

end Onward

/-- What is kept at every moment, also by what fails. -/
abbrev Advances (start : Int) (before limits : List Int) (m : SimM κ (Diary μ) α) : Prop :=
  Keeps (Onward start before limits) (fun _ => Onward start before limits) m

section Advance

variable {start : Int} {before limits : List Int} {act : Behaviour κ (Diary μ)}

theorem steady_onward (start : Int) (before limits : List Int) :
    Steady (κ := κ) (Onward (μ := μ) start before limits)
      (fun _ => Onward start before limits) fun _ => True where
  seen onward _ := onward.of_same rfl rfl rfl
  changed _ onward _ _ := onward.of_same rfl rfl rfl
  stopped onward := onward.of_same rfl rfl rfl
  unwritable onward _ := onward

theorem stable_onward (start : Int) (before limits : List Int) :
    Stable (κ := κ) (Onward (μ := μ) start before limits)
      (fun _ => Onward start before limits) (fun _ => True) fun _ _ => True where
  toSteady := steady_onward start before limits
  aside onward apart :=
    onward.of_same (by rw [apart.scheduler]) (by rw [World.now, apart.scheduler]; rfl)
      (by rw [apart.memory])
  interrupted onward _ := onward
  registered onward _ later event _ := onward.registered later event
  taken onward _ _ _ takes := onward.taken takes
  counted onward := onward.of_same rfl rfl rfl
  pending _ a _ := said_any a.event
  voiced _ _ _ _ _ := trivial
  rescripted _ onward _ _ := onward.of_same rfl rfl rfl
  bound _ onward _ _ _ _ _ _ := onward.of_same rfl rfl rfl
  failing _ := steady_onward start before limits

/-- A run of which the bound has been noted keeps the clock going. -/
theorem run_advances (calls : ∀ limits c cue, Advances start before limits (act c cue)) (fuel : Nat)
    (limits : List Int) (bound : Option Int) :
    Advances start before limits (do
      Diary.noteBound bound
      Simulation.run (Simulation.fire act) bound fuel) := by
  intro w onward
  have pauses (limit : Int) (bounded : limit ∈ bound) {w : World κ (Diary μ)} {due : Int}
      (onward : Onward start before (bound.toList ++ limits) w)
      (next : w.scheduler.nextDue? = some due) (later : limit < due) :
      Onward start before (bound.toList ++ limits)
        { w with scheduler := w.scheduler.setNow limit } :=
    onward.paused (List.mem_append_left _ (Option.mem_toList.mpr bounded)) next later
  have stable : Stable (κ := κ) (Onward (μ := μ) start before (bound.toList ++ limits))
      (fun _ => Onward start before (bound.toList ++ limits)) (fun _ => True) fun _ _ => True :=
    stable_onward start before _
  have ran := stable.run (stable.fire_any (calls _)) pauses fuel _ (onward.noted bound)
  exact ran.imp (fun _ kept => kept.fewer) fun _ _ kept => kept.fewer

/-- Users' code keeps the clock going, if the code that it sets off does. -/
theorem exec_advances (calls : ∀ limits c cue, Advances start before limits (act c cue))
    (fuel : Nat) (p : Program κ μ) (limits : List Int) :
    Advances start before limits (p.exec act fuel) := by
  have same {g : World κ (Diary μ) → World κ (Diary μ)} (pending : ∀ w,
      (g w).scheduler = w.scheduler ∧ (g w).memory.bounds = w.memory.bounds) :
      Advances start before limits (modify g : SimM κ (Diary μ) Unit) :=
    Keeps.modify fun {w} onward => onward.of_same (by rw [(pending w).1])
      (by rw [World.now, (pending w).1]; rfl) (pending w).2
  refine ((stable_onward start before limits).operates (calls limits)
    (run_advances calls fuel limits) ?_ ?_ ?_).exec p p.abides_any
  · exact fun script log _ w onward => onward.of_same rfl rfl rfl
  · exact fun h => same fun w => ⟨rfl, rfl⟩
  · exact fun change _ => same fun w => ⟨rfl, rfl⟩

theorem noted_onward {w : World κ (Diary μ)} (onward : Onward start before limits w) (cue : Cue)
    (f : Failure) : Onward start before limits (Session.noted cue f w) := by
  unfold Session.noted
  split
  · exact onward
  · exact onward.of_same rfl rfl rfl

theorem behaviour_advances (code : κ → Cue → Program κ μ) (limit : Nat) (limits : List Int) (c : κ)
    (cue : Cue) : Advances start before limits (behaviour code limit c cue) := by
  induction limit generalizing limits c cue with
  | zero => exact fun _ onward => onward
  | succ limit ih =>
    intro w onward
    have ran := exec_advances ih limit (code c cue) limits w onward
    exact ran.watched (fun _ kept => kept) fun f _ kept => noted_onward kept cue f

end Advance

theorem Reachable.timely {code : κ → Cue → Program κ μ} {w : World κ (Diary μ)}
    (reachable : Reachable code w) : Timely w := by
  have onward {w : World κ (Diary μ)} (timely : Timely w) : Onward w.now w.memory.bounds [] w :=
    ⟨timely, [], by simp, nofun, fun _ => Int.le_refl _⟩
  induction reachable with
  | fresh clock =>
    intro a member
    rw [clock] at member
    cases member
  | acted _ p limit ih =>
    exact (exec_advances (behaviour_advances code limit) limit p [] _ (onward ih)).final.timely
  | taken _ next ih => exact ((onward ih).taken (Scheduler.takes_of_next? next)).timely
  | counted _ ih => exact ih

/-- Whatever users' code has done before, no pending event is due before now; and whatever it does next,
so it is afterwards, and the clock has not gone back if no run was asked to stop before now meanwhile.
A run that is asked to stop before now, while the simulation is not stopped and events are
pending, sets the clock back to its bound. -/
theorem clock_onward {code : κ → Cue → Program κ μ} {w : World κ (Diary μ)}
    (reachable : Reachable code w) (p : Program κ μ) (limit : Nat) :
    (∀ a ∈ w.scheduler.pending, w.now ≤ a.due) ∧
    (let w' := final (p.exec (behaviour code limit) limit) w;
      (∀ a ∈ w'.scheduler.pending, w'.now ≤ a.due) ∧
      ∃ asked, w'.memory.bounds = w.memory.bounds ++ asked ∧
        ((∀ bound ∈ asked, w.now ≤ bound) → w.now ≤ w'.now)) ∧
    ∀ bound < w.now, w.scheduler.stopped = false → w.scheduler.pending ≠ [] →
      run (fire (behaviour code limit)) (some bound) (limit + 1) w =
        .ok bound { w with scheduler := w.scheduler.setNow bound } := by
  have timely := reachable.timely
  have start : Onward w.now w.memory.bounds [] w :=
    ⟨timely, [], by simp, nofun, fun _ => Int.le_refl _⟩
  have onward := (exec_advances (behaviour_advances code limit) limit p [] w start).final
  obtain ⟨asked, bounds, _, ahead⟩ := onward.asked
  refine ⟨timely, ⟨onward.timely, asked, bounds, ahead⟩, ?_⟩
  intro bound past running pending
  obtain ⟨a, rest, shape⟩ := List.exists_cons_of_ne_nil pending
  have next : w.scheduler.nextDue? = some a.due := by
    rw [Scheduler.nextDue?, shape]
    rfl
  have due : w.now ≤ a.due := timely a (by simp [shape])
  exact run_paused running next (by omega)

/-- Code that does nothing. -/
def idle : Unit → Cue → Program Unit Unit := fun _ _ => .answer false

/-- The world in which an event is due at 100 and a run has been paused at 50. -/
def paused : World Unit (Diary Unit) :=
  final ((Program.schedule 100 (.task ()) (.run (some 50) fun _ => .answer false)).exec
      (behaviour idle 2) 2) <|
    World.plain { own := () }

theorem reachable_paused : Reachable idle paused := .acted (.fresh rfl) _ _

theorem clock_onward_paused :
    Reachable idle paused ∧ paused.now = 50 ∧ (∀ a ∈ paused.scheduler.pending, paused.now ≤ a.due) ∧
    let w' := final ((Program.run (some 70) fun _ => .stop (.answer true)).exec (behaviour idle 2) 2)
      paused;
    (∀ a ∈ w'.scheduler.pending, w'.now ≤ a.due) ∧
      (∃ asked, w'.memory.bounds = paused.memory.bounds ++ asked ∧
        ((∀ bound ∈ asked, paused.now ≤ bound) → paused.now ≤ w'.now)) ∧
      run (fire (behaviour idle 2)) (some 10) 3 paused =
        .ok 10 { paused with scheduler := paused.scheduler.setNow 10 } := by
  obtain ⟨timely, onward, backward⟩ :=
    clock_onward reachable_paused (.run (some 70) fun _ => .stop (.answer true)) 2
  have rewound := backward 10 (by decide +kernel) (by decide +kernel) (by
    intro empty
    have : paused.scheduler.pending.length = 1 := by decide +kernel
    simp [empty] at this)
  exact ⟨reachable_paused, by decide +kernel, timely, onward.1, onward.2, rewound⟩

/-- The clock goes back from 50 to 10 when the paused run is resumed with an earlier bound. -/
theorem clock_goes_back : Reachable idle paused ∧ paused.now = 50 ∧
    (final (run (fire (behaviour idle 2)) (some 10) 2) paused).now = 10 := by
  exact ⟨reachable_paused, by decide +kernel, by decide +kernel⟩

end MoteTrial.Session
