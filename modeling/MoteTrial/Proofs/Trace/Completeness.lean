import MoteTrial.Proofs.Deadline.Test
import MoteTrial.Proofs.Session.Clock
import MoteTrial.Proofs.Trace.Upkeep

/-! # Traces are complete

When the run of a built-in script on a fresh simulation ends, whether it returns or raises, its trace has
all there is to have of it: the lines of the log, the accounting of counters, the changes of links, the
verdict and the time. Other code may take part in the run, as long as it leaves the trace and the
simulation's changes of links to the functions that keep them.
-/

namespace MoteTrial

open SimM Simulation Session Scenario Deadline

variable {κ μ : Type} {α : Type} {t : Nat}

section Code

/-- Changes that users' code makes while a trace is kept: either a link is changed, or nothing that
belongs to the trace. -/
inductive Respectful : (World κ μ → World κ μ) → Prop
  | link (kind : Change) (a b : Int) : Respectful (final (Simulation.changeLink kind a b))
  | apart (change : World κ μ → World κ μ)
    (rows : ∀ w, (change w).observer.rows = w.observer.rows)
    (aim : ∀ w, (change w).radioTrace = w.radioTrace)
    (mutations : ∀ w, (change w).medium.mutations = w.medium.mutations) : Respectful change

/-- Users' code that attaches no further script and makes no other changes. -/
def Session.Program.Respects : Program κ μ → Prop :=
  Program.Abides (fun _ _ => True) (fun _ => False) Respectful

/-- No bounded run has been asked for. -/
def Unbounded (d : Diary μ) : Prop := d.bounds = []

/-- A bounded run has been asked for, if it is known that one has. -/
def Bounded (known : Prop) (d : Diary μ) : Prop := known → d.bounds ≠ []

/-- An operation that is recorded as far as it goes, also while a bounded run goes on. -/
abbrev KeepsTrace (t : Nat) (bounded : Prop) (m : SimM κ (Diary μ) α) : Prop :=
  KeepsRecord t Unbounded (Bounded bounded) m

variable {bounded : Prop} {act : Behaviour κ (Diary μ)} {code : κ → Cue → Program κ μ}

theorem diary_recorded {f : Diary μ → Diary μ} (bounds : ∀ d, (f d).bounds = d.bounds) :
    KeepsTrace t bounded (Diary.change f : SimM κ (Diary μ) Unit) := by
  refine Keeps.modify fun {w} ⟨host, trace, recorded⟩ => ⟨host, trace, recorded.remembered ?_ ?_⟩
  · intro so
    rw [bounds]
    exact recorded.known so
  · intro same
    exact (bounds w.memory).symm.trans same

/-- A bounded run may turn the clock back; it is noted that there was one. -/
theorem run_recorded (calls : ∀ bounded c cue, KeepsTrace t bounded (act c cue))
    (bound : Option Int) (fuel : Nat) : KeepsTrace t bounded (do
      Diary.noteBound bound
      Simulation.run (Simulation.fire act) bound fuel) := by
  cases bound with
  | none =>
    have noted : KeepsTrace t bounded (Diary.noteBound none : SimM κ (Diary μ) Unit) :=
      diary_recorded fun d => List.append_nil d.bounds
    exact noted.bind fun _ => Tracing.run (calls bounded) nofun fuel
  | some limit =>
    rintro w ⟨host, trace, recorded⟩
    let memory : Diary μ := { w.memory with bounds := w.memory.bounds ++ [limit] }
    have noted : Traced t Unbounded (Bounded True) true host trace { w with memory } := by
      refine recorded.remembered (fun _ => ?_) fun same => ?_
      · simp [memory]
      · simp [Unbounded, memory] at same
    have runs : KeepsTrace t True (Simulation.run (Simulation.fire act) (some limit) fuel) :=
      Tracing.run (calls True) (fun _ d known same => known trivial same) fuel
    refine (runs _ ⟨host, trace, noted⟩).imp ?_ ?_
    · rintro w ⟨host, trace, recorded⟩
      exact ⟨host, trace, { recorded with known := fun _ => recorded.known trivial }⟩
    · rintro i w ⟨host, trace, recorded⟩
      exact ⟨host, trace, { recorded with known := fun _ => recorded.known trivial }⟩

theorem alter_recorded {change : World κ (Diary μ) → World κ (Diary μ)}
    (respectful : Respectful change) : KeepsTrace t bounded (modify (altered change)) := by
  refine Keeps.modify fun {w} tracing => ?_
  cases respectful with
  | link kind a b =>
    have apart : Apart w (final (Simulation.changeLink kind a b) w) := apart_changeLink kind a b w
    have kept := (Tracing.changeLink kind a b w tracing).final
    obtain ⟨host, trace, recorded⟩ := kept
    refine ⟨host, trace, recorded.of_same apart.hosts.symm rfl rfl rfl ?_ ?_ ?_⟩
    · unfold altered
      rw [apart.memory]
    · rw [apart.scheduler]
      rfl
    · rw [World.now, World.now, apart.scheduler]
      rfl
  | apart _ rows aim mutations =>
    obtain ⟨host, trace, recorded⟩ := tracing
    let memory : Diary μ := { w.memory with own := (change w).memory.own }
    have remembered : Traced t Unbounded (Bounded bounded) true host trace { w with memory } :=
      recorded.remembered recorded.known fun same => same
    exact ⟨host, trace, remembered.of_same rfl (rows w) (aim w) (mutations w) rfl rfl rfl⟩

theorem operates_recorded (calls : ∀ bounded c cue, KeepsTrace t bounded (act c cue)) (fuel : Nat) :
    Operates act fuel (Tracing t Unbounded (Bounded bounded))
      (fun _ => Tracing t Unbounded (Bounded bounded)) (fun _ _ => True) (fun _ => False)
      Respectful :=
  (Tracing.sustains (calls bounded)).operates (fun bound => run_recorded calls bound fuel)
    (fun _ _ attached => attached.elim) (fun _ => diary_recorded fun _ => rfl)
    fun _ => alter_recorded

theorem behaviour_recorded (respects : ∀ c cue, (code c cue).Respects) (limit : Nat) (c : κ)
    (cue : Cue) : KeepsTrace t bounded (behaviour code limit c cue) := by
  induction limit generalizing bounded c cue with
  | zero => exact fun _ tracing => tracing
  | succ limit ih =>
    intro w tracing
    have ran := (operates_recorded (fun _ => ih) limit).exec _ (respects c cue) w tracing
    refine ran.watched (fun _ tracing => tracing) fun f w tracing => ?_
    unfold noted
    split
    · exact tracing
    · obtain ⟨host, trace, recorded⟩ := tracing
      exact ⟨host, trace, recorded.remembered recorded.known fun same => same⟩

end Code

section Test

/-- A simulation without hosts and changes of links, before a trace without rows. -/
structure Untested (t : Nat) (w : World κ μ) : Prop where
  unhosted : w.hosts = #[]
  unchanged : w.medium.mutations = #[]
  untraced : w.observer.rows[t]? = some {}
  timely : ∀ a ∈ w.scheduler.pending, w.now ≤ a.due

/-- A trace that has all there is to have of the test of a host: the text of each line of its log, each
change of a link that can be written, the accounting of each counter, the verdict and the time. -/
structure Complete (t : Nat) (host : Host κ) (trace : Trace) (w : World κ μ) : Prop where
  log : trace.logRows.toList.map (·.text) = host.log.lines.toList.map TestLog.trimmed
  links : trace.linkRows = (w.medium.mutations.filter Mutation.isWritable).map Mutation.row
  receptions : host.script.Accounted t true trace.receptionRows.toList
  verdict : trace.verdict = host.log.verdict.map Verdict.name
  ended : trace.endTime = w.now

variable {w : World κ μ} {still known : μ → Prop}

theorem Untested.recorded (untested : Untested t w) (knows : known w.memory) (name : ScriptName)
    (config : Config) (timeout : Option Int) (echo : Bool) :
    Traced t still known false
      { script := (name.script config timeout).recordIn (some t), log := { echo, trace := some t } }
      {} (attaching (name.script config timeout) (some t) echo w) where
  alone := rfl
  kept := untested.untraced
  aimed := rfl
  traced := rfl
  logged := rfl
  linked := by
    change #[] = (w.medium.mutations.filter Mutation.isWritable).map Mutation.row
    rw [untested.unchanged, Array.filter_empty, Array.map_empty]
  accounted := by
    cases name with
    | linkFault => exact ⟨rfl, rfl⟩
    | reception => exact ⟨rfl, rfl, trivial, fun _ => accounts_nil⟩
  written row member := absurd member (Array.not_mem_empty row)
  known := knows
  ordered _ := by
    refine ⟨untested.timely, fun stream => ?_⟩
    cases stream with
    | log | reception | link => exact ⟨.nil, nofun⟩

/-- The world once its trace is closed. -/
def World.closed (t : Nat) (w : World κ μ) : World κ μ :=
  let verdict := w.hosts[0]?.bind (·.log.verdict)
  w.seenBy (w.observer.modifyTrace t (·.close (verdict.map Verdict.name) w.now))

theorem final_runScript (act : Behaviour κ μ) (fuel : Nat) (unhosted : w.hosts = #[])
    (script : Script κ) (echo : Bool) :
    final (runScript act fuel script (some t) echo) w =
      (final (Host.run act fuel 0) (attaching script (some t) echo w)).closed t := by
  obtain ⟨returns, raises⟩ := runScript_closes act fuel unhosted script (some t) echo
  cases ended : Host.run act fuel 0 (attaching script (some t) echo w) with
  | ok u v =>
    simp only [final, returns u v ended, ended]
    rfl
  | error i v =>
    simp only [final, raises i v ended, ended]
    rfl

theorem Traced.closed {host : Host κ} {row : Trace}
    (recorded : Traced t still known true host row w) :
    (w.closed t).observer.rows[t]? =
      some (row.close (host.log.verdict.map Verdict.name) w.now) := by
  have verdict : w.hosts[0]?.bind (·.log.verdict) = host.log.verdict := by
    rw [recorded.present]
    rfl
  unfold World.closed
  rw [verdict]
  exact recorded.kept_modify (w.observer.rows_close t _ w.now)

/-- The trace of a recorded run is complete once it is closed. -/
theorem Traced.complete {host : Host κ} {row : Trace}
    (recorded : Traced t still known true host row w) :
    ∃ trace, (w.closed t).hosts = #[host] ∧ (w.closed t).observer.traces[t]? = some trace ∧
      Complete t host trace (w.closed t) ∧
      (still w.memory → ∀ stream, (trace.times stream).Pairwise (· ≤ ·)) := by
  have kept := recorded.closed
  rw [Observer.rows, Array.getElem?_map] at kept
  obtain ⟨trace, held, same⟩ := Option.map_eq_some_iff.mp kept
  have logRows : trace.logRows = row.logRows := (congrArg Trace.logRows same :)
  have receptionRows : trace.receptionRows = row.receptionRows := (congrArg Trace.receptionRows same :)
  have linkRows : trace.linkRows = row.linkRows := (congrArg Trace.linkRows same :)
  refine ⟨trace, recorded.alone, held, ⟨?_, ?_, ?_, ?_, ?_⟩, fun untimed stream => ?_⟩
  · rw [logRows]
    exact recorded.logged
  · rw [linkRows]
    exact recorded.linked
  · rw [receptionRows]
    exact recorded.accounted
  · exact congrArg Trace.verdict same
  · exact congrArg Trace.endTime same
  · have sorted := ((recorded.ordered untimed).rows stream).sorted
    cases stream with
    | log => rwa [Trace.times, logRows]
    | reception => rwa [Trace.times, receptionRows]
    | link => rwa [Trace.times, linkRows]

end Test

section Script

variable {w : World κ (Diary μ)} {code : κ → Cue → Program κ μ}

/-- Whatever becomes of a test with a trace, in the end the trace is complete. The rows of each stream
are in the order of their times, unless users' code has asked for a bounded run, which may turn the
clock back. -/
theorem trace_complete (respects : ∀ c cue, (code c cue).Respects) (untested : Untested t w)
    (name : ScriptName) (config : Config) (timeout : Option Int) (echo : Bool) (limit fuel : Nat) :
    let ended := final (runScript (behaviour code limit) fuel (name.script config timeout) (some t)
      echo) w
    ∃ host trace, ended.hosts = #[host] ∧ ended.observer.traces[t]? = some trace ∧
      Complete t host trace ended ∧
      (ended.memory.bounds = [] → ∀ stream, (trace.times stream).Pairwise (· ≤ ·)) := by
  have started : Traced t Unbounded (Bounded False) false _ _ _ :=
    untested.recorded nofun name config timeout echo
  have ran := Tracing.hostRun (fun c cue => behaviour_recorded respects limit c cue) started fuel
  obtain ⟨host, row, recorded⟩ := ran.final
  dsimp only
  rw [final_runScript (behaviour code limit) fuel untested.unhosted]
  obtain ⟨trace, alone, held, complete, ordered⟩ := recorded.complete
  exact ⟨host, trace, alone, held, complete, ordered⟩

end Script

section Stage

theorem idle_respects (c : Unit) (cue : Cue) : (idle c cue).Respects := trivial

/-- A simulation in which motes log lines at some times, before a trace. -/
def heard (lines : List (Int × Int × String)) : World Unit (Diary Unit) :=
  lines.foldl (fun w (time, mote, msg) => w.register time (.line mote msg))
    { World.plain { own := () } with observer := { traces := #[{}] } }

theorem untested_heard {lines : List (Int × Int × String)} (future : ∀ line ∈ lines, 0 ≤ line.1) :
    Untested 0 (heard lines) := by
  have more (w : World Unit (Diary Unit)) (untested : Untested 0 w) (zero : w.now = 0) : Untested 0
      (lines.foldl (fun w (time, mote, msg) => w.register time (.line mote msg)) w) := by
    induction lines generalizing w with
    | nil => exact untested
    | cons line rest ih =>
      refine ih (fun line member => future line (List.mem_cons_of_mem _ member)) _ ?_ zero
      have later : w.now ≤ line.1 := zero ▸ future line List.mem_cons_self
      exact { untested with timely := World.timely_register untested.timely later _ }
  exact more _ ⟨rfl, rfl, by rw [Observer.rows, Array.getElem?_map]; rfl, nofun⟩ rfl

/-- Motes 1 and 3 start, and the link between them is degraded before the test is done. -/
def degraded : World Unit (Diary Unit) :=
  heard [(0, 1, "1 started"), (0, 3, "3 started"), (5, 3, "1 third"), (7, 3, "halfway"), (9, 3, "done")]

theorem trace_complete_degraded :
    (∀ c cue, (idle c cue).Respects) ∧ Untested 0 degraded ∧
      let ended := final (runScript (behaviour idle 1) 8
        (ScriptName.linkFault.script degraded.config none) (some 0) true) degraded
      (∃ host trace, ended.hosts = #[host] ∧ ended.observer.traces[0]? = some trace ∧
        Complete 0 host trace ended ∧
        (ended.memory.bounds = [] → ∀ stream, (trace.times stream).Pairwise (· ≤ ·))) ∧
      ended.medium.mutations = #[⟨5, .deteriorate, 1, 3⟩] ∧ ended.memory.bounds = [] := by
  have untested : Untested 0 degraded := untested_heard (by decide)
  refine ⟨idle_respects, untested, ?_, by decide +kernel, by decide +kernel⟩
  exact trace_complete idle_respects untested .linkFault degraded.config none true 1 8

/-- Mote 3 asks for the link to be degraded at a time that is too long to be written. -/
def belated : World Unit (Diary Unit) :=
  heard [(0, 1, "1 started"), (0, 3, "3 started"), ((10 ^ Numeral.digitLimit : Nat), 3, "1 third")]

/-- A change of a link without a row: it is made before its time turns out not to be writable. -/
theorem link_row_missing :
    (∀ c cue, (idle c cue).Respects) ∧ Untested 0 belated ∧
      let ended := final (runScript (behaviour idle 1) 8 (ScriptName.linkFault.script belated.config
        (some (10 ^ (Numeral.digitLimit + 1) : Nat))) (some 0) false) belated
      ended.medium.mutations.map (·.change) = #[.deteriorate] ∧
        ended.observer.traces[0]?.map (·.linkRows) = some #[] := by
  refine ⟨idle_respects, untested_heard (by decide +kernel), ?_⟩
  dsimp only
  decide +kernel

end Stage

end MoteTrial
