import MoteTrial.Proofs.Execution
import MoteTrial.Proofs.Trace.Rows

/-! # Runs that differ in what is traced

Two worlds are the `Same` if they differ at most in what observes them: the console, the files, the
traces, and where lines, receptions and changes of links are recorded. How much of the traces has to
agree nevertheless is a `Sight`: nothing, or the rows in memory. Two operations are `Parallel` if they
turn the same worlds into the same worlds, with the same result; an operation is `Oblivious` if it is
parallel to itself.
-/

namespace MoteTrial

open SimM

/-- How much of what is recorded has to agree. -/
inductive Sight where
  | nothing
  | rows
  deriving DecidableEq, Repr

namespace Sight

/-- What has to agree of observers. -/
def view : Sight → Observer → Array Trace
  | .nothing, _ => #[]
  | .rows, o => o.rows

/-- What has to agree of where something is recorded. -/
def place : Sight → Option Nat → Option Nat
  | .nothing, _ => none
  | .rows, trace => trace

/-- Ways of recording of which the rows in memory depend on nothing else. -/
def Records (f : Nat → Observer → Observer) : Prop :=
  ∃ g : Nat → Trace → Trace, ∀ id o, (f id o).rows = o.rows.modify id (g id)

theorem records_log (time mote : Int) (text : String) :
    Records fun id o => o.recordLog id time mote text :=
  ⟨_, fun id o => o.rows_recordLog id time mote text⟩

theorem records_reception (row : ReceptionRow) : Records fun id o => o.recordReception id row :=
  ⟨_, fun id o => o.rows_recordReception id row⟩

theorem records_link (row : LinkRow) : Records fun id o => o.recordLink id row :=
  ⟨_, fun id o => o.rows_recordLink id row⟩

theorem records_close (verdict : Option String) (time : Int) :
    Records fun id o => o.modifyTrace id (·.close verdict time) :=
  ⟨_, fun id o => o.rows_close id verdict time⟩

/-- The observer once something is recorded, if there is a trace for it. -/
def recorded (trace : Option Nat) (f : Nat → Observer → Observer) (o : Observer) : Observer :=
  match trace with
  | none => o
  | some id => f id o

variable {s : Sight} {o o' : Observer} {trace trace' : Option Nat}

theorem view_print (s : Sight) (o : Observer) (text : String) :
    s.view (o.print text) = s.view o := by
  cases s with
  | nothing => rfl
  | rows => rfl

theorem view_recorded {f : Nat → Observer → Observer} (records : Records f)
    (placed : s.place trace = s.place trace') (viewed : s.view o = s.view o') :
    s.view (recorded trace f o) = s.view (recorded trace' f o') := by
  cases s with
  | nothing => rfl
  | rows =>
    obtain ⟨g, rows⟩ := records
    have same : trace = trace' := placed
    subst same
    cases trace with
    | none => exact viewed
    | some id =>
      change (f id o).rows = (f id o').rows
      rw [rows, rows]
      exact congrArg (·.modify id (g id)) viewed

end Sight

variable {κ μ : Type} {α β : Type} {s : Sight}

/-- Scripts that differ at most in where they record receptions. -/
inductive Script.Alike (s : Sight) : Script κ → Script κ → Prop where
  | linkFault (timeout : Int) (attached : Bool) (state : LinkFault) :
    Alike s (.linkFault timeout attached state) (.linkFault timeout attached state)
  | reception (timeout : Int) (attached : Bool) {trace trace' : Option Nat} (state : Reception)
    (placed : s.place trace = s.place trace') :
    Alike s (.reception timeout attached trace state) (.reception timeout attached trace' state)
  | code (c : κ) : Alike s (.code c) (.code c)

/-- Logs that differ at most in whether lines are shown and where they are recorded. -/
inductive TestLog.Alike (s : Sight) (log : TestLog) : TestLog → Prop where
  | mk (echo : Bool) {trace : Option Nat} (placed : s.place log.trace = s.place trace) :
    Alike s log { log with echo, trace }

/-- Hosts with such scripts and logs that do not differ in anything else. -/
inductive Host.Alike (s : Sight) (host : Host κ) : Host κ → Prop where
  | mk {script : Script κ} {log : TestLog} (scripts : Script.Alike s host.script script)
    (logs : TestLog.Alike s host.log log) : Alike s host { host with script, log }

/-- The same hosts. -/
structure SameHosts (s : Sight) (hosts hosts' : Array (Host κ)) : Prop where
  size : hosts.size = hosts'.size
  each : ∀ i : Nat, Option.Rel (Host.Alike s) hosts[i]? hosts'[i]?

/-- Worlds that differ at most in what observes them. -/
inductive Same (s : Sight) (w : World κ μ) : World κ μ → Prop where
  | mk {hosts : Array (Host κ)} {radioTrace : Option Nat} {observer : Observer}
    (alike : SameHosts s w.hosts hosts) (placed : s.place w.radioTrace = s.place radioTrace)
    (viewed : s.view w.observer = s.view observer) :
    Same s w { w with hosts, radioTrace, observer }

/-- The same results. -/
inductive Matches (s : Sight) :
    EStateM.Result Interrupt (World κ μ) α → EStateM.Result Interrupt (World κ μ) α → Prop where
  | ok (a : α) {w w' : World κ μ} (same : Same s w w') : Matches s (.ok a w) (.ok a w')
  | error (i : Interrupt) {w w' : World κ μ} (same : Same s w w') :
    Matches s (.error i w) (.error i w')

/-- Operations that make the same of the same worlds. -/
def Parallel (s : Sight) (m m' : SimM κ μ α) : Prop :=
  ∀ w w' : World κ μ, Same s w w' → Matches s (m w) (m' w')

/-- An operation on which it has no bearing what observes the world. -/
abbrev Oblivious (s : Sight) (m : SimM κ μ α) : Prop := Parallel s m m

section Rules

theorem Matches.bind {m m' : SimM κ μ α} {f f' : α → SimM κ μ β} {w w' : World κ μ}
    (first : Matches s (m w) (m' w')) (rest : ∀ a, Parallel s (f a) (f' a)) :
    Matches s ((m >>= f) w) ((m' >>= f') w') := by
  generalize run : m w = r at first
  generalize run' : m' w' = r' at first
  cases first with
  | ok a same =>
    rw [bind_ok run, bind_ok run']
    exact rest a _ _ same
  | error i same =>
    rw [bind_error run, bind_error run']
    exact .error i same

namespace Parallel

theorem bind {m m' : SimM κ μ α} {f f' : α → SimM κ μ β} (first : Parallel s m m')
    (rest : ∀ a, Parallel s (f a) (f' a)) : Parallel s (m >>= f) (m' >>= f') :=
  fun w w' same => (first w w' same).bind rest

theorem pure (a : α) : Oblivious s (pure a : SimM κ μ α) := fun _ _ same => .ok a same

/-- What is done next may depend on the world as far as it is the same. -/
theorem reads {f f' : World κ μ → SimM κ μ β}
    (rest : ∀ {w w' : World κ μ}, Same s w w' → Parallel s (f w) (f' w')) :
    Parallel s (get >>= f) (get >>= f') := fun w w' same => rest same w w' same

theorem modify {g g' : World κ μ → World κ μ}
    (respects : ∀ {w w' : World κ μ}, Same s w w' → Same s (g w) (g' w')) :
    Parallel s (modify g : SimM κ μ Unit) (modify g') := fun _ _ same => .ok () (respects same)

theorem fail (f : Failure) : Oblivious s (SimM.fail f : SimM κ μ α) :=
  fun _ _ same => .error _ same

theorem ofExcept (result : Except Failure α) : Oblivious s (SimM.ofExcept result : SimM κ μ α) := by
  cases result with
  | ok a => exact pure a
  | error f => exact fail f

theorem observe {f f' : Observer → Observer}
    (viewed : ∀ {o o' : Observer}, s.view o = s.view o' → s.view (f o) = s.view (f' o')) :
    Parallel s (SimM.observe f : SimM κ μ Unit) (SimM.observe f') :=
  modify fun ⟨hosts, placed, same⟩ => ⟨hosts, placed, viewed same⟩

/-- The console may show different things. -/
theorem print (text text' : String) :
    Parallel s (SimM.print text : SimM κ μ Unit) (SimM.print text') :=
  observe fun viewed => by rw [s.view_print, s.view_print, viewed]

/-- The same is recorded, where there is a trace for it. -/
theorem record {f : Nat → Observer → Observer} (records : Sight.Records f) {trace trace' : Option Nat}
    (placed : s.place trace = s.place trace') :
    Parallel s (SimM.observe (Sight.recorded trace f) : SimM κ μ Unit)
      (SimM.observe (Sight.recorded trace' f)) :=
  observe fun viewed => Sight.view_recorded records placed viewed

end Parallel

end Rules

section Hosts

variable {hosts hosts' : Array (Host κ)} {w w' : World κ μ} {h : Nat}

theorem Script.Alike.unseen {script script' : Script κ} (alike : Script.Alike s script script') :
    Script.Alike .nothing script script' := by
  cases alike with
  | linkFault timeout attached state => exact .linkFault timeout attached state
  | reception timeout attached state _ => exact .reception timeout attached state rfl
  | code c => exact .code c

theorem Host.Alike.unseen {host host' : Host κ} (alike : Host.Alike s host host') :
    Host.Alike .nothing host host' := by
  obtain ⟨scripts, ⟨echo, _⟩⟩ := alike
  exact ⟨scripts.unseen, .mk echo rfl⟩

theorem Host.Alike.scripts {host host' : Host κ} (alike : Host.Alike s host host') :
    Script.Alike s host.script host'.script := by
  cases alike with
  | mk scripts _ => exact scripts

theorem Host.Alike.logs {host host' : Host κ} (alike : Host.Alike s host host') :
    TestLog.Alike s host.log host'.log := by
  cases alike with
  | mk _ logs => exact logs

theorem SameHosts.unseen (same : SameHosts s hosts hosts') : SameHosts .nothing hosts hosts' := by
  refine ⟨same.size, fun i => ?_⟩
  have alike := same.each i
  generalize hosts[i]? = there, hosts'[i]? = there' at alike ⊢
  cases alike with
  | none => exact .none
  | some alike => exact .some alike.unseen

theorem SameHosts.modify (same : SameHosts s hosts hosts') {f f' : Host κ → Host κ}
    (respects : ∀ {host host'}, Host.Alike s host host' → Host.Alike s (f host) (f' host')) :
    SameHosts s (hosts.modify h f) (hosts'.modify h f') := by
  refine ⟨by simp only [Array.size_modify, same.size], fun i => ?_⟩
  rw [Array.getElem?_modify, Array.getElem?_modify]
  have alike := same.each i
  split
  · generalize hosts[i]? = there, hosts'[i]? = there' at alike
    cases alike with
    | none => exact .none
    | some alike => exact .some (respects alike)
  · exact alike

theorem SameHosts.push (same : SameHosts s hosts hosts') {host host' : Host κ}
    (alike : Host.Alike s host host') : SameHosts s (hosts.push host) (hosts'.push host') := by
  refine ⟨by simp only [Array.size_push, same.size], fun i => ?_⟩
  rw [Array.getElem?_push, Array.getElem?_push, same.size]
  split
  · exact .some alike
  · exact same.each i

namespace Same

theorem config (same : Same s w w') : w'.config = w.config := by cases same; rfl

theorem now (same : Same s w w') : w'.now = w.now := by cases same; rfl

theorem sameHosts (same : Same s w w') : SameHosts s w.hosts w'.hosts := by
  cases same with
  | mk hosts _ _ => exact hosts

theorem placed (same : Same s w w') : s.place w.radioTrace = s.place w'.radioTrace := by
  cases same with
  | mk _ placed _ => exact placed

theorem viewed (same : Same s w w') : s.view w.observer = s.view w'.observer := by
  cases same with
  | mk _ _ viewed => exact viewed

/-- Worlds are still the same once a host has changed alike and something more is observed. -/
theorem put (same : Same s w w') {f f' : Host κ → Host κ} {o o' : Observer}
    (respects : ∀ {host host'}, Host.Alike s host host' → Host.Alike s (f host) (f' host'))
    (viewed : s.view o = s.view o') :
    Same s { w with hosts := w.hosts.modify h f, observer := o }
      { w' with hosts := w'.hosts.modify h f', observer := o' } := by
  obtain ⟨alike, placed, _⟩ := same
  exact ⟨alike.modify respects, placed, viewed⟩

/-- Worlds that are the same with their traces are the same without. -/
theorem unseen (same : Same s w w') : Same .nothing w w' := by
  obtain ⟨alike, _, _⟩ := same
  exact ⟨alike.unseen, rfl, rfl⟩

end Same

end Hosts

end MoteTrial
