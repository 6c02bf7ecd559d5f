import MoteTrial.Proofs.Host.Playback

/-! # From the start of a test to its run

The world in which a built-in script starts to run, and how a run of a test ends, given how the loop
over the events ends.
-/

namespace MoteTrial

open SimM Simulation Scenario

variable {κ μ : Type}

namespace ScriptName

/-- The script of a name with the given deadline, once it is attached to its host. -/
def attached (name : ScriptName) (timeout : Int) : Script κ :=
  match name with
  | .linkFault => .linkFault timeout true {}
  | .reception => .reception timeout true none {}

/-- The host on which the test with the script of a name starts. -/
def host (name : ScriptName) (timeout : Int) (echo : Bool) : Host κ :=
  { script := name.attached timeout, log := { echo }, deadlineSet := true }

theorem host_builtIn (name : ScriptName) (timeout : Int) (echo : Bool) :
    (name.host timeout echo : Host κ).BuiltIn timeout := by
  refine ⟨rfl, ?_⟩
  cases name with
  | linkFault => exact .inl ⟨{}, rfl⟩
  | reception => exact .inr ⟨{}, rfl⟩

/-- The bench on which a test starts. -/
def bench (name : ScriptName) (timeout : Int) (echo : Bool) : Bench κ :=
  { host := name.host timeout echo }

theorem bench_sound (name : ScriptName) (timeout : Int) (echo : Bool) :
    (name.bench timeout echo : Bench κ).Sound timeout :=
  ⟨name.host_builtIn timeout echo, fun _ => rfl⟩

end ScriptName

/-- A scenario: a network is built and tested with the script of a name. -/
def Scenario.tested (act : Behaviour κ μ) (build : SimM κ μ Unit) (name : ScriptName) (timeout : Int)
    (echo : Bool) (fuel : Nat) : SimM κ μ Nat := do
  build
  runScript act fuel (name.script Config.standard (some timeout)) none echo

/-- The world in which a test with a built-in script starts to run. -/
def World.testing (name : ScriptName) (timeout : Int) (echo : Bool) (w : World κ μ) : World κ μ :=
  { w with
    hosts := #[name.host timeout echo]
    listeners := w.listeners ++ [.host 0]
    scheduler := w.scheduler.register (w.now + timeout) (.expire 0 timeout .builtIn) }

section Run

variable {act : Behaviour κ μ} {name : ScriptName} {timeout : Int} {echo : Bool}
  {w w' : World κ μ} {fuel h : Nat} {host : Host κ} {b : Bench κ}

theorem registerDeadline_apply (present : w.hosts[h]? = some host)
    (unset : host.deadlineSet = false) {after : Int} (nonneg : 0 ≤ after) (action : Expiry κ) :
    Host.registerDeadline h after action w =
      .ok () ((w.setHost h { host with deadlineSet := true }).register (w.now + after)
        (.expire h after action)) := by
  unfold Host.registerDeadline
  rw [get_bind_apply]
  simp only [present, unset, Bool.false_eq_true, ↓reduceIte]
  refine (bind_ok (Host.change_apply present fun host => { host with deadlineSet := true }) _).trans ?_
  exact schedule_apply nonneg _ _

/-- A built-in script takes hold of its host and registers its deadline. -/
theorem setup_apply {c : Config} {trace : Option Nat} {log : TestLog} (nonneg : 0 ≤ timeout)
    (fresh : w.hosts[h]? =
      some { script := (name.script c (some timeout)).recordIn trace, log }) :
    Host.setup act h w = .ok false ((w.setHost h
      { script := (name.attached timeout).recordIn trace, log, deadlineSet := true }).register
        (w.now + timeout) (.expire h timeout .builtIn)) := by
  have there := World.hosts_setHost fresh
    { script := (name.attached timeout).recordIn trace, log }
  have registered := registerDeadline_apply (κ := κ) (h := h) there rfl nonneg .builtIn
  rw [World.setHost_setHost] at registered
  unfold Host.setup
  rw [get_bind_apply]
  simp only [fresh]
  cases name with
  | linkFault =>
    refine (bind_ok (Host.change_apply fresh fun host =>
      { host with script := .linkFault timeout true {} }) _).trans ?_
    exact bind_ok registered _
  | reception =>
    refine (bind_ok (Host.change_apply fresh fun host =>
      { host with script := .reception timeout true trace {} }) _).trans ?_
    exact bind_ok registered _

/-- A test with a built-in script starts. -/
theorem start_apply {c : Config} {trace : Option Nat} {log : TestLog} (nonneg : 0 ≤ timeout)
    (fresh : w.hosts[h]? =
      some { script := (name.script c (some timeout)).recordIn trace, log }) :
    Host.start act h w = .ok () ((w.setHost h
      { script := (name.attached timeout).recordIn trace, log, deadlineSet := true }).register
        (w.now + timeout) (.expire h timeout .builtIn)) := by
  unfold Host.start
  rw [bind_ok (Host.guarded_ok (setup_apply nonneg fresh))]
  rfl

theorem attach_bind_apply {α : Type} (script : Script κ) (log : TestLog) (f : Nat → SimM κ μ α) :
    (Host.attach script log >>= f) w = f w.hosts.size
      { w with hosts := w.hosts.push { script, log }
               listeners := w.listeners ++ [.host w.hosts.size] } := rfl

/-- The world in which a script is attached to a further host. -/
def joined (script : Script κ) (trace : Option Nat) (echo : Bool) (w : World κ μ) : World κ μ :=
  { w with
    radioTrace := if trace.isSome then trace else w.radioTrace
    hosts := w.hosts.push { script := script.recordIn trace, log := { echo, trace } }
    listeners := w.listeners ++ [.host w.hosts.size] }

/-- A run of a script ends as the run of its host does, once its trace is closed. -/
theorem runScript_joined (act : Behaviour κ μ) (fuel : Nat) (script : Script κ) (trace : Option Nat)
    (echo : Bool) (w : World κ μ) :
    (∀ w', Host.run act fuel w.hosts.size (joined script trace echo w) = .ok () w' →
      runScript act fuel script trace echo w =
        (do closeTrace w.hosts.size trace
            return w.hosts.size : SimM κ μ Nat) w') ∧
    (∀ i w', Host.run act fuel w.hosts.size (joined script trace echo w) = .error i w' →
      runScript act fuel script trace echo w =
        (do closeTrace w.hosts.size trace
            throw i : SimM κ μ Nat) w') := by
  unfold runScript joined
  cases trace with
  | none =>
    simp only [Option.isSome_none, Bool.false_eq_true, ↓reduceIte]
    refine ⟨fun w' ran => ?_, fun i w' ran => ?_⟩
    · refine (attach_bind_apply _ _ _).trans ?_
      simp only [ran]
    · refine (attach_bind_apply _ _ _).trans ?_
      simp only [ran]
  | some id =>
    simp only [Option.isSome_some, ↓reduceIte, modify_bind_apply]
    refine ⟨fun w' ran => ?_, fun i w' ran => ?_⟩
    · refine (attach_bind_apply _ _ _).trans ?_
      simp only [ran]
    · refine (attach_bind_apply _ _ _).trans ?_
      simp only [ran]

/-- A test with no other listener goes on from its start. -/
theorem Playing.start (standard : w.config = Config.standard) (silent : w.radioTrace = none)
    (unheard : w.listeners = []) (running : w.scheduler.stopped = false)
    (unchanged : w.medium.mutations = #[]) :
    Playing timeout (name.bench timeout echo) (w.testing name timeout echo) := by
  refine ⟨standard, silent, ?_, running, rfl, unchanged, name.bench_sound timeout echo, rfl⟩
  change w.listeners ++ [.host 0] = _
  rw [unheard]
  rfl

/-- How a test ends once the loop over the events has: a host that the loop left unfinished fails. -/
def conclude : SimM κ μ Unit := do
  match (← get).hosts[0]? with
  | none => return
  | some host =>
    if !host.finished then
      Host.failTest 0 "simulation ended before the script finished"
      Host.change 0 fun host => { host with finished := true }

/-- A test on a world without hosts: the loop over the events, and its conclusion. -/
theorem runScript_apply (nonneg : 0 ≤ timeout) (unhosted : w.hosts = #[]) :
    runScript act fuel (name.script Config.standard (some timeout)) none echo w =
      (do let _ ← run (fire act) none fuel
          conclude
          return 0 : SimM κ μ Nat) (w.testing name timeout echo) := by
  let script : Script κ := name.script Config.standard (some timeout)
  have plain : script.recordIn none = script := by cases name <;> rfl
  have unrecorded : (name.attached timeout : Script κ).recordIn none = name.attached timeout := by
    cases name <;> rfl
  have started : Host.start act 0
      { w with hosts := #[{ script, log := { echo } }], listeners := w.listeners ++ [.host 0] } =
      .ok () (w.testing name timeout echo) := by
    rw [← plain, start_apply nonneg rfl, unrecorded]
    rfl
  have ran : Host.run act fuel 0
      { w with hosts := #[{ script, log := { echo } }], listeners := w.listeners ++ [.host 0] } =
      (do let _ ← run (fire act) none fuel
          conclude : SimM κ μ Unit) (w.testing name timeout echo) := by
    unfold Host.run
    rw [bind_ok started]
    rfl
  unfold runScript
  simp only [Option.isSome_none, Bool.false_eq_true, ↓reduceIte]
  refine (attach_bind_apply (script.recordIn none) { echo } _).trans ?_
  simp only [plain, unhosted, Array.size_empty, Array.push_empty, ran]
  cases looped : run (fire act) none fuel (w.testing name timeout echo) with
  | error i w' =>
    simp only [bind_error looped]
    rfl
  | ok time w' =>
    simp only [bind_ok looped]
    cases concluded : conclude w' with
    | error i w' =>
      simp only [bind_error concluded]
      rfl
    | ok _ w' =>
      simp only [bind_ok concluded]
      rfl

/-- A test whose loop leaves a finished host ends as the loop does. -/
theorem runScript_ok (nonneg : 0 ≤ timeout) (unhosted : w.hosts = #[]) {time : Int}
    (looped : run (fire act) none fuel (w.testing name timeout echo) = .ok time w')
    (present : w'.hosts[0]? = some host) (finished : host.finished = true) :
    runScript act fuel (name.script Config.standard (some timeout)) none echo w = .ok 0 w' := by
  have concluded : conclude w' = .ok () w' := by
    unfold conclude
    rw [get_bind_apply]
    simp only [present, finished, Bool.not_true, Bool.false_eq_true, ↓reduceIte]
    rfl
  rw [runScript_apply nonneg unhosted, bind_ok looped, bind_ok concluded]
  rfl

/-- A test whose loop is interrupted is interrupted. -/
theorem runScript_error (nonneg : 0 ≤ timeout) (unhosted : w.hosts = #[]) {i : Interrupt}
    (looped : run (fire act) none fuel (w.testing name timeout echo) = .error i w') :
    runScript act fuel (name.script Config.standard (some timeout)) none echo w = .error i w' := by
  rw [runScript_apply nonneg unhosted, bind_error looped]

/-- A test ends as its loop does, if that ends with a finished host. -/
theorem Bench.IsEnd.runScript (nonneg : 0 ≤ timeout) (unhosted : w.hosts = #[])
    (finished : b.host.finished = true)
    (looped : b.IsEnd (run (fire act) none fuel (w.testing name timeout echo))) :
    b.IsEnd (runScript act fuel (name.script Config.standard (some timeout)) none echo w) := by
  cases ended : run (fire act) none fuel (w.testing name timeout echo) with
  | ok time w' =>
    rw [ended] at looped
    rw [runScript_ok nonneg unhosted ended looped.1.host finished]
    exact looped
  | error i w' =>
    rw [ended] at looped
    rw [runScript_error nonneg unhosted ended]
    cases i with
    | failure f => exact looped
    | exhausted => exact looped.elim

end Run

end MoteTrial
