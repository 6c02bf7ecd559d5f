import MoteTrial.Proofs.Medium.Operations
import MoteTrial.Proofs.Network.Setup
import MoteTrial.Proofs.Session.Operations

/-! # Calls that are refused

A call that sets up a simulation is refused if it is faulty, and leaves the world as it was: what comes
after it gives what it would give without it. The exception is the first registration of a deadline with a
negative duration, which uses up the only registration that the host has.
-/

namespace MoteTrial

open SimM Simulation Session

variable {κ μ α : Type}

/-- A call that sets up a simulation. -/
inductive Call (κ : Type) where
  | addMote (id : Int) (firmware : Option Firmware)
  | schedule (delay : Int) (event : Event κ)
  | bootAll
  | addLink (a b : Int) (ratio : Option Amount)
  | registerDeadline (h : Nat) (after : Int) (action : Expiry κ)

namespace Call

/-- Carries out a call. The declaration of a link answers with it. -/
def run : Call κ → SimM κ μ (Option Link)
  | .addMote id firmware => do
    Simulation.addMote id firmware
    return none
  | .schedule delay event => do
    Simulation.schedule delay event
    return none
  | .bootAll => do
    Simulation.bootAll
    return none
  | .addLink a b ratio => return some (← Scenario.link a b ratio)
  | .registerDeadline h after action => do
    Host.registerDeadline h after action
    return none

/-- Whether a call is the first registration of a host, with a negative duration. -/
def spends (w : World κ μ) : Call κ → Bool
  | .registerDeadline h after _ => decide (after < 0) && w.hosts[h]?.any fun host => !host.deadlineSet
  | _ => false

/-- Whether a call is one to refuse: it adds a mote that exists, has a negative delay, boots a mote with a
negative identifier, declares a link with an invalid ratio, or registers a deadline for the second time or
with a negative duration. -/
def Faulty (w : World κ μ) : Call κ → Prop
  | .addMote id _ => w.motes.has id = true
  | .schedule delay _ => delay < 0
  | .bootAll => ∃ e ∈ w.motes.entries, e.1 < 0 ∧ e.2.firmware?.isSome = true
  | .addLink _ _ ratio => LinkOp.accepted? w.config ratio = none
  | .registerDeadline h after _ =>
    ∃ host, w.hosts[h]? = some host ∧ (host.deadlineSet = true ∨ after < 0)

end Call

/-- The world once a host cannot register a deadline any more. -/
def World.spent (h : Nat) (w : World κ μ) : World κ μ :=
  { w with hosts := w.hosts.modify h fun host => { host with deadlineSet := true } }

/-- An operation that is refused and changes nothing if it is faulty, and is carried out otherwise. -/
def RefusedIf (faulty : Prop) (m : SimM κ μ α) (w : World κ μ) : Prop :=
  (faulty → ∃ i, m w = .error i w) ∧ (¬ faulty → ∃ answer w', m w = .ok answer w')

namespace RefusedIf

variable {faulty : Prop} {m : SimM κ μ α} {w : World κ μ}

/-- A refused operation leaves the world as it was. -/
theorem same (checked : RefusedIf faulty m w) {i : Interrupt} {w' : World κ μ}
    (refused : m w = .error i w') : w' = w := by
  by_cases fault : faulty
  · obtain ⟨_, unchanged⟩ := checked.1 fault
    rw [unchanged] at refused
    cases refused
    rfl
  · obtain ⟨_, _, done⟩ := checked.2 fault
    rw [done] at refused
    cases refused

theorem answered {β : Type} {answer : α → β} (checked : RefusedIf faulty m w) :
    RefusedIf faulty (m >>= fun a => pure (answer a)) w := by
  refine ⟨fun fault => ?_, fun sound => ?_⟩
  · obtain ⟨i, refused⟩ := checked.1 fault
    exact ⟨i, bind_error refused _⟩
  · obtain ⟨a, w', done⟩ := checked.2 sound
    exact ⟨answer a, w', bind_ok done _⟩

end RefusedIf

section Refusal

variable {w : World κ μ}

theorem addMote_refusedIf (id : Int) (firmware : Option Firmware) :
    RefusedIf (w.motes.has id = true) (addMote id firmware) w := by
  unfold addMote RefusedIf
  rw [get_bind_apply]
  cases taken : w.motes.has id with
  | true => exact ⟨fun _ => ⟨_, rfl⟩, fun sound => absurd rfl sound⟩
  | false =>
    refine ⟨nofun, fun _ => ?_⟩
    cases firmware <;> exact ⟨(), _, rfl⟩

theorem schedule_refusedIf (delay : Int) (event : Event κ) :
    RefusedIf (delay < 0) (schedule delay event) w :=
  ⟨fun negative => ⟨_, schedule_past negative _ _⟩,
    fun sound => ⟨(), _, schedule_apply (Int.not_lt.mp sound) _ _⟩⟩

/-- The motes that cannot be booted come before all that can, so a boot is refused before any is
scheduled. -/
theorem bootEach_refusedIf {interval : Int} (forward : 0 < interval) {entries : List (Int × Mote)}
    (increasing : entries.Pairwise fun a b => compare a.1 b.1 = .lt) :
    RefusedIf (∃ e ∈ entries, e.1 < 0 ∧ e.2.firmware?.isSome = true) (bootEach interval entries) w := by
  induction entries with
  | nil => exact ⟨fun ⟨_, member, _⟩ => absurd member List.not_mem_nil, fun _ => ⟨(), w, rfl⟩⟩
  | cons head rest ih =>
    obtain ⟨id, mote⟩ := head
    obtain ⟨least, increasing⟩ := List.pairwise_cons.mp increasing
    cases installed : mote.firmware?.isSome with
    | false =>
      have skipped : bootEach interval ((id, mote) :: rest) w = bootEach interval rest w := by
        rw [bootEach, installed]
        rfl
      simpa only [RefusedIf, skipped, List.exists_mem_cons_iff, installed, Bool.false_eq_true, and_false,
        false_or] using ih increasing
    | true =>
      by_cases negative : id < 0
      · refine ⟨fun _ => ?_, fun sound => absurd ⟨_, List.mem_cons_self, negative, installed⟩ sound⟩
        rw [bootEach, installed]
        exact ⟨_, bind_error (schedule_past (Int.mul_neg_of_pos_of_neg forward negative) _ _) _⟩
      · have beyond : ∀ e ∈ (id, mote) :: rest, 0 ≤ e.1 := by
          refine List.forall_mem_cons.mpr ⟨Int.not_lt.mp negative, fun e member => ?_⟩
          have := Int.compare_eq_lt.mp (least e member)
          omega
        exact ⟨fun ⟨e, member, below, _⟩ => absurd (beyond e member) (Int.not_le.mpr below),
          fun _ => ⟨(), _, bootEach_apply (Int.le_of_lt forward) beyond w⟩⟩

theorem bootAll_refusedIf (forward : 0 < w.config.bootInterval) :
    RefusedIf (∃ e ∈ w.motes.entries, e.1 < 0 ∧ e.2.firmware?.isSome = true) bootAll w :=
  bootEach_refusedIf forward w.motes.increasing

theorem link_refusedIf (a b : Int) (ratio : Option Amount) :
    RefusedIf (LinkOp.accepted? w.config ratio = none) (Scenario.link a b ratio) w := by
  unfold Scenario.link LinkOp.accepted? RefusedIf
  cases ratio.mapM Amount.value with
  | error e => exact ⟨fun _ => ⟨_, rfl⟩, fun sound => absurd rfl sound⟩
  | ok given =>
    rw [ofExcept_ok_bind_apply]
    cases valid : Medium.isRatio (given.getD w.config.nominalRatio) with
    | true =>
      have declared : w.medium.addLink w.config a b given = .ok _ := if_pos valid
      simp only [Option.filter_some, valid, ↓reduceIte]
      exact ⟨nofun, fun _ => ⟨_, _, onMedium_ok declared⟩⟩
    | false =>
      have declared : w.medium.addLink w.config a b given = .error _ := if_neg (by simp [valid])
      simp only [Option.filter_some, valid, Bool.false_eq_true, ↓reduceIte]
      exact ⟨fun _ => ⟨_, onMedium_error declared⟩, fun sound => absurd trivial sound⟩

/-- A registration is checked before it changes the host, unless it is the first one with a negative
duration. -/
theorem registerDeadline_refusedIf {h : Nat} {after : Int} {action : Expiry κ}
    (harmless : (Call.registerDeadline h after action).spends w = false) :
    RefusedIf (∃ host, w.hosts[h]? = some host ∧ (host.deadlineSet = true ∨ after < 0))
      (Host.registerDeadline h after action) w := by
  unfold Host.registerDeadline RefusedIf
  rw [get_bind_apply]
  cases found : w.hosts[h]? with
  | none =>
    refine ⟨fun ⟨_, absent, _⟩ => ?_, fun _ => ⟨(), w, rfl⟩⟩
    cases absent
  | some host =>
    cases set : host.deadlineSet with
    | true =>
      simp only [set, ↓reduceIte]
      exact ⟨fun _ => ⟨_, rfl⟩, fun sound => absurd ⟨host, rfl, .inl set⟩ sound⟩
    | false =>
      have nonneg : ¬ after < 0 := by simpa [Call.spends, found, set] using harmless
      simp only [set, Bool.false_eq_true, ↓reduceIte]
      refine ⟨fun ⟨_, here, fault⟩ => ?_, fun _ => ⟨(), _, schedule_apply (Int.not_lt.mp nonneg) _ _⟩⟩
      cases here
      rw [set] at fault
      exact absurd (fault.resolve_left Bool.false_ne_true) nonneg

/-- A call that does not use up a registration is refused exactly if it is faulty, and then leaves the
world as it was. -/
theorem Call.refusedIf {call : Call κ} (forward : 0 < w.config.bootInterval)
    (harmless : call.spends w = false) : RefusedIf (call.Faulty w) call.run w := by
  cases call with
  | addMote id firmware => exact (addMote_refusedIf id firmware).answered
  | schedule delay event => exact (schedule_refusedIf delay event).answered
  | bootAll => exact (bootAll_refusedIf forward).answered
  | addLink a b ratio => exact (link_refusedIf a b ratio).answered
  | registerDeadline h after action => exact (registerDeadline_refusedIf harmless).answered

/-- A call that uses up a registration is refused, and so are all later registrations of the host. -/
theorem Call.spent {h : Nat} {after : Int} {action : Expiry κ}
    (spends : (Call.registerDeadline h after action).spends w = true) :
    Host.registerDeadline h after action w =
        .error (.failure (Failure.pastDelay after).settled) (w.spent h) ∧
      ∀ after' action', Host.registerDeadline h after' action' (w.spent h) =
        .error (.failure .secondDeadline) (w.spent h) := by
  simp only [Call.spends, Bool.and_eq_true, decide_eq_true_eq, Option.any_eq_true,
    Bool.not_eq_true'] at spends
  obtain ⟨negative, host, found, unset⟩ := spends
  constructor
  · unfold Host.registerDeadline
    simp only [get_bind_apply, found, unset, Bool.false_eq_true, ↓reduceIte]
    exact schedule_past negative _ _
  · intro after' action'
    have set : (w.spent h).hosts[h]? = some { host with deadlineSet := true } := by
      simp [World.spent, Array.getElem?_modify, found]
    unfold Host.registerDeadline
    simp only [get_bind_apply, set, ↓reduceIte]
    rfl

end Refusal

/-- The parameters are the usual ones. -/
def World.Usual (w : World κ μ) : Prop := w.config = Config.standard

/-- An operation that leaves the parameters the usual ones, also if it fails. -/
abbrev KeepsUsual (m : SimM κ μ α) : Prop := Keeps World.Usual (fun _ => World.Usual) m

theorem Call.keepsUsual (call : Call κ) : KeepsUsual (call.run : SimM κ μ (Option Link)) := by
  have failed : ∀ {w : World κ μ}, w.Usual → ∀ _ : Failure, w.Usual := fun usual _ => usual
  have schedules (delay : Int) (event : Event κ) :
      KeepsUsual (Simulation.schedule delay event : SimM κ μ Unit) :=
    Keeps.schedule failed fun usual _ => usual
  cases call with
  | addMote id firmware =>
    exact (Keeps.addMote failed fun usual _ _ => usual).bind fun _ => Keeps.pure _
  | schedule delay event => exact (schedules delay event).bind fun _ => Keeps.pure _
  | bootAll => exact (Keeps.bootAll fun _ _ => schedules _ _).bind fun _ => Keeps.pure _
  | addLink a b ratio =>
    refine Keeps.bind ?_ fun _ => Keeps.pure _
    unfold Scenario.link
    refine (Keeps.ofExcept failed _).bind fun _ => ?_
    exact keeps_onMedium failed (fun _ => Keeps.modify id) _
  | registerDeadline h after action =>
    refine Keeps.bind ?_ fun _ => Keeps.pure _
    exact Keeps.registerDeadline failed (Keeps.modify fun usual => usual)
      (schedules _ _)

/-- What is done next with a simulation: one of the calls, or anything else that leaves the parameters the
usual ones. -/
inductive Step (κ μ α : Type) where
  | call (c : Call κ)
  | other (m : SimM κ μ α) (keeps : KeepsUsual m)

namespace Step

variable {w : World κ μ}

/-- Carries out a step. -/
def run : Step κ μ α → SimM κ μ (Option Link ⊕ α)
  | .call c => return .inl (← c.run)
  | .other m _ => return .inr (← m)

/-- The world after a step, whether it succeeds or not. -/
def next (w : World κ μ) (step : Step κ μ α) : World κ μ := final step.run w

/-- Whether a step is a call that is refused without using up a registration. -/
def isRefused (w : World κ μ) : Step κ μ α → Bool
  | .call c =>
    match c.run w with
    | .ok _ _ => false
    | .error _ _ => !c.spends w
  | .other _ _ => false

theorem usual_next (usual : w.Usual) (step : Step κ μ α) : (step.next w).Usual := by
  have keeps : KeepsUsual step.run := by
    cases step with
    | call c => exact c.keepsUsual.bind fun _ => Keeps.pure _
    | other m keeps => exact keeps.bind fun _ => Keeps.pure _
  have kept := keeps w usual
  unfold next final
  cases run : step.run w with
  | ok _ w' | error _ w' =>
    rw [run] at kept
    exact kept

/-- A refused step leaves the world as it was. -/
theorem next_of_isRefused (usual : w.Usual) {step : Step κ μ α} (refused : step.isRefused w = true) :
    step.next w = w := by
  cases step with
  | other m keeps => cases refused
  | call c =>
    cases run : c.run w with
    | ok answer w' =>
      simp only [isRefused, run] at refused
      cases refused
    | error i w' =>
      simp only [isRefused, run] at refused
      have forward : 0 < w.config.bootInterval := by
        rw [usual]
        decide
      have same : w' = w := (c.refusedIf forward (by simpa using refused)).same run
      exact (final_error (bind_error run _)).trans same

end Step

/-- The world after some steps. A step that fails does not end them. -/
def World.stepped (w : World κ μ) (steps : List (Step κ μ α)) : World κ μ :=
  steps.foldl (fun w step => step.next w) w

/-- What the callers of some steps get, each with whether the step is refused. -/
def World.history (w : World κ μ) :
    List (Step κ μ α) → List (Bool × Except Interrupt (Option Link ⊕ α))
  | [] => []
  | step :: rest => (step.isRefused w, outcome step.run w) :: (step.next w).history rest

/-- The steps that are not refused. -/
def World.heeded (w : World κ μ) : List (Step κ μ α) → List (Step κ μ α)
  | [] => []
  | step :: rest =>
    if step.isRefused w then (step.next w).heeded rest else step :: (step.next w).heeded rest

/-- Without the refused steps, the others give what they give with them. -/
theorem World.stepped_heeded {w : World κ μ} (usual : w.Usual) (steps : List (Step κ μ α)) :
    w.stepped (w.heeded steps) = w.stepped steps ∧
      w.history (w.heeded steps) = (w.history steps).filter (!·.1) := by
  induction steps generalizing w with
  | nil => exact ⟨rfl, rfl⟩
  | cons step rest ih =>
    obtain ⟨world, results⟩ := ih (step.usual_next usual)
    cases refused : step.isRefused w with
    | true =>
      have same := Step.next_of_isRefused usual refused
      rw [same] at world results
      simp only [heeded, history, refused, same, ↓reduceIte, List.filter_cons, Bool.not_true,
        Bool.false_eq_true]
      exact ⟨world.trans (congrArg (World.stepped · rest) same.symm), results⟩
    | false =>
      simp only [heeded, history, refused, ↓reduceIte, List.filter_cons, Bool.not_false,
        Bool.false_eq_true]
      exact ⟨world, congrArg _ results⟩

/-- A call is refused exactly if it is faulty, and then leaves the world as it was, unless it is the first
registration of its host with a negative duration: that uses up the registration and changes nothing else.
All other steps go on as they would without the refused calls. -/
theorem refused_calls_leave_no_trace (w : World κ μ) (usual : w.config = Config.standard) :
    (∀ call : Call κ, call.spends w = false → RefusedIf (call.Faulty w) call.run w) ∧
    (∀ h after action, (Call.registerDeadline h after action).spends w = true →
      Host.registerDeadline h after action w =
          .error (.failure (Failure.pastDelay after).settled) (w.spent h) ∧
        ∀ after' action', Host.registerDeadline h after' action' (w.spent h) =
          .error (.failure .secondDeadline) (w.spent h)) ∧
    ∀ steps : List (Step κ μ α), w.stepped (w.heeded steps) = w.stepped steps ∧
      w.history (w.heeded steps) = (w.history steps).filter (!·.1) := by
  have forward : 0 < w.config.bootInterval := by
    rw [usual]
    decide
  exact ⟨fun call harmless => call.refusedIf forward harmless,
    fun h after action spends => Call.spent spends, World.stepped_heeded usual⟩

/-- Calls of which the second and the third are refused. -/
def stumbling : List (Step Unit Unit Unit) :=
  [.call (.addMote 1 none), .call (.addMote 1 none), .call (.schedule (-5) (.task ())),
    .call (.schedule 5 (.task ()))]

theorem refused_calls_leave_no_trace_stumbling :
    let w : World Unit Unit := World.plain ()
    w.config = Config.standard ∧
      (w.history stumbling).map (·.1) = [false, true, true, false] ∧
      w.stepped (w.heeded stumbling) = w.stepped stumbling ∧
      (w.history (w.heeded stumbling)).map (·.1) = [false, false] := by
  intro w
  obtain ⟨-, -, same⟩ := refused_calls_leave_no_trace (α := Unit) w rfl
  obtain ⟨world, results⟩ := same stumbling
  refine ⟨rfl, by decide +kernel, world, ?_⟩
  rw [results]
  decide +kernel

/-- A fresh simulation with one host. -/
def World.hosted : World Unit Unit := final (Host.attach (.code ()) {}) (World.plain ())

/-- A negative duration is refused and leaves its trace: a registration that would have succeeded fails
after it. -/
theorem registration_spent_by_refusal :
    World.hosted.config = Config.standard ∧
      failure? (Host.registerDeadline 0 (-1) .nothing) World.hosted = some (.pastDelay (-1)) ∧
      final (Host.registerDeadline 0 (-1) .nothing) World.hosted ≠ World.hosted ∧
      failure? (Host.registerDeadline 0 5 .nothing) World.hosted = none ∧
      failure? (Host.registerDeadline 0 5 .nothing)
        (final (Host.registerDeadline 0 (-1) .nothing) World.hosted) = some .secondDeadline := by
  refine ⟨rfl, by decide +kernel, fun same => ?_, by decide +kernel, by decide +kernel⟩
  have flags := congrArg (fun w => w.hosts.map (·.deadlineSet)) same
  exact absurd flags (by decide +kernel)

end MoteTrial
