import MoteTrial.Proofs.Host.Operations
import MoteTrial.Proofs.Session.Program

/-! # Properties that operations keep

An operation `Keeps` a property of worlds if it leaves a world with it; what an interrupt leaves behind
may have a property of its own. A property is `Steady` or `Stable` if the few elementary changes that
operations make to a world keep it. Hosts may be exempted: the property has to bear changes of the
`free` ones only. A stable property may also depend on what is said: it has to bear the lines among
`lines` only. The operations on logs keep steady properties.
-/

namespace MoteTrial.Session

open SimM Simulation

variable {κ μ : Type} {α β : Type}

/-- A result that leaves a world with a property, or with the one that goes with its interrupt. -/
def Kept (I : World κ μ → Prop) (E : Interrupt → World κ μ → Prop) :
    EStateM.Result Interrupt (World κ μ) α → Prop
  | .ok _ w => I w
  | .error i w => E i w

/-- An operation that keeps a property. -/
def Keeps (I : World κ μ → Prop) (E : Interrupt → World κ μ → Prop) (m : SimM κ μ α) : Prop :=
  ∀ w, I w → Kept I E (m w)

/-- What a world may become apart from its events, its hosts and who listens, without further motes. -/
structure Apart (w w' : World κ μ) : Prop where
  scheduler : w'.scheduler = w.scheduler
  hosts : w'.hosts = w.hosts
  memory : w'.memory = w.memory
  config : w'.config = w.config
  listeners : w'.listeners = w.listeners
  motes : ∀ id, w'.motes.has id = true → w.motes.has id = true

/-- What a world may become by what motes do without a word: no change of a link, nothing to observe. -/
structure Quiet (w w' : World κ μ) : Prop extends Apart w w' where
  observer : w'.observer = w.observer
  radioTrace : w'.radioTrace = w.radioTrace
  mutations : w'.medium.mutations = w.medium.mutations

/-- A property that the operations on logs keep. -/
structure Steady (I : World κ μ → Prop) (E : Interrupt → World κ μ → Prop) (free : Nat → Prop) :
    Prop where
  seen : ∀ {w : World κ μ}, I w → ∀ o : Observer, I (w.seenBy o)
  changed : ∀ {w : World κ μ} {h : Nat}, free h → I w → ∀ f : Host κ → Host κ,
    (∀ host, (f host).script = host.script) → I { w with hosts := w.hosts.modify h f }
  stopped : ∀ {w : World κ μ}, I w → I w.stopped
  unwritable : ∀ {w : World κ μ}, I w → Numeral.isWritable w.now = false →
    E (.failure .unwritableInteger) w

/-- The mote that a script holds to be at an end of the link. -/
def endpoint? (endpoint : Endpoint) : Script κ → Option Int
  | .linkFault _ _ state =>
    match endpoint with
    | .first => state.first
    | .third => state.third
  | _ => none

/-- A script that holds no end of the link to be a mote that the other does not. -/
def Within (script other : Script κ) : Prop :=
  ∀ endpoint id, endpoint? endpoint script = some id → endpoint? endpoint other = some id

/-- The host of a link-fault script, with a change of its state. -/
def relinked (f : LinkFault → LinkFault) (host : Host κ) : Host κ :=
  match host.script with
  | .linkFault timeout attached state => { host with script := .linkFault timeout attached (f state) }
  | _ => host

/-- The lines that the firmware of a mote logs. -/
inductive Voiced (config : Config) (id : Int) : String → Prop where
  | started : Voiced config id (Numeral.decimal id ++ " " ++ config.keywordStarted)
  | deteriorate : Voiced config id config.keywordDeteriorate
  | improve : Voiced config id config.keywordImprove
  | done : Voiced config id config.keywordDone
  | received (counter : Nat) :
    Voiced config id (config.keywordReceived ++ " " ++ Numeral.decimal counter)

/-- An event that, if it is a line of a recorded run, is among the lines that are said. -/
def Said (lines : Int → String → Prop) : Event κ → Prop
  | .line mote msg => lines mote msg
  | _ => True

theorem said_any (event : Event κ) : Said (fun _ _ => True) event := by
  cases event <;> trivial

/-- A property that the passing of time keeps, as long as the lines that are said are among `lines`.
Events are taken only while the simulation is not stopped. -/
structure Paced (I : World κ μ → Prop) (E : Interrupt → World κ μ → Prop)
    (lines : Int → String → Prop) : Prop where
  interrupted : ∀ {w : World κ μ}, I w → ∀ i, E i w
  registered : ∀ {w : World κ μ}, I w → ∀ {due : Int}, w.now ≤ due → ∀ {event : Event κ},
    Said lines event → I (w.register due event)
  taken : ∀ {w : World κ μ}, I w → w.scheduler.stopped = false → ∀ {a : Appointment (Event κ)}
    {s : Scheduler (Event κ)}, w.scheduler.Takes a s → I { w with scheduler := s }
  counted : ∀ {w : World κ μ}, I w → I w.finishEvent
  pending : ∀ {w : World κ μ}, I w → ∀ a ∈ w.scheduler.pending, Said lines a.event
  voiced : ∀ {w : World κ μ}, I w → ∀ {id : Int} {msg : String}, w.motes.has id = true →
    Voiced w.config id msg → lines id msg

/-- A property that all operations keep, as long as the lines that are said are among `lines`. -/
structure Stable (I : World κ μ → Prop) (E : Interrupt → World κ μ → Prop) (free : Nat → Prop)
    (lines : Int → String → Prop) : Prop extends Steady I E free, Paced I E lines where
  aside : ∀ {w w' : World κ μ}, I w → Apart w w' → I w'
  rescripted : ∀ {w : World κ μ} {h : Nat}, free h → I w → ∀ f : Host κ → Host κ,
    (∀ host, w.hosts[h]? = some host → Within (f host).script host.script) →
    I { w with hosts := w.hosts.modify h f }
  bound : ∀ {w : World κ μ} {h : Nat}, free h → I w → ∀ {mote : Int} {msg : String}
    {endpoint : Endpoint}, lines mote msg → Message.classify msg = .started →
    Message.startedEndpoint? w.config msg = some endpoint →
    I { w with hosts := w.hosts.modify h (relinked (·.bind endpoint mote)) }
  failing : ∀ f, Steady (E (.failure f)) E free

section Rules

variable {I : World κ μ → Prop} {E : Interrupt → World κ μ → Prop}

theorem Kept.bind {I' : World κ μ → Prop} {m : SimM κ μ α} {f : α → SimM κ μ β} {w : World κ μ}
    (first : Kept I E (m w)) (rest : ∀ a w, I w → Kept I' E (f a w)) : Kept I' E ((m >>= f) w) := by
  cases run : m w with
  | ok a w' =>
    rw [run] at first
    rw [bind_ok run]
    exact rest a w' first
  | error i w' =>
    rw [run] at first
    rw [bind_error run]
    exact first

theorem Kept.imp {I' : World κ μ → Prop} {E' : Interrupt → World κ μ → Prop}
    {r : EStateM.Result Interrupt (World κ μ) α} (kept : Kept I E r) (better : ∀ w, I w → I' w)
    (worse : ∀ i w, E i w → E' i w) : Kept I' E' r := by
  cases r with
  | ok a w => exact better w kept
  | error i w => exact worse i w kept

theorem Kept.final {m : SimM κ μ α} {w : World κ μ} (kept : Kept I (fun _ => I) (m w)) :
    I (final m w) := by
  unfold SimM.final
  cases run : m w with
  | ok a w' => rwa [run] at kept
  | error i w' => rwa [run] at kept

theorem Kept.returns {r : EStateM.Result Interrupt (World κ μ) α} (kept : Kept I E r) :
    Returns (fun _ => I) r := by
  cases r with
  | ok a w => exact kept
  | error i w => trivial

theorem Kept.leaves {left : World κ μ → Prop} {r : EStateM.Result Interrupt (World κ μ) α}
    (kept : Kept I (fun _ => left) r) : Leaves (fun _ => I) left r := by
  cases r with
  | ok a w => exact kept
  | error i w => exact kept

theorem Keeps.bind {m : SimM κ μ α} {f : α → SimM κ μ β} (first : Keeps I E m)
    (rest : ∀ a, Keeps I E (f a)) : Keeps I E (m >>= f) :=
  fun w kept => (first w kept).bind rest

theorem Keeps.pure (a : α) : Keeps I E (pure a : SimM κ μ α) := fun _ kept => kept

theorem Keeps.reads {f : World κ μ → SimM κ μ β} (rest : ∀ w, Keeps I E (f w)) :
    Keeps I E (get >>= f) := fun w kept => rest w w kept

/-- What is done next may depend on what is kept so far. -/
theorem Keeps.seen {f : World κ μ → SimM κ μ β} (rest : ∀ w, I w → Kept I E (f w w)) :
    Keeps I E (get >>= f) := rest

theorem Keeps.modify {g : World κ μ → World κ μ} (keeps : ∀ {w}, I w → I (g w)) :
    Keeps I E (modify g : SimM κ μ Unit) := fun _ kept => keeps kept

theorem Keeps.fails (failed : ∀ {w}, I w → ∀ f, E (.failure f) w) (f : Failure) :
    Keeps I E (SimM.fail f : SimM κ μ α) := fun _ kept => failed kept _

theorem Keeps.ofExcept (failed : ∀ {w}, I w → ∀ f, E (.failure f) w) (result : Except Failure α) :
    Keeps I E (SimM.ofExcept result : SimM κ μ α) := by
  cases result with
  | ok a => exact Keeps.pure a
  | error f => exact Keeps.fails failed f

/-- What a call leaves behind once it is noted whether it raised. -/
theorem Kept.watched {μ : Type} {I : World κ (Diary μ) → Prop}
    {E E' : Interrupt → World κ (Diary μ) → Prop} {m : SimM κ (Diary μ) Bool} {cue : Cue}
    {w : World κ (Diary μ)} (kept : Kept I E (m w)) (exhausted : ∀ w, E .exhausted w → E' .exhausted w)
    (noting : ∀ f w, E (.failure f) w → E' (.failure f) (noted cue f w)) :
    Kept I E' (Session.watched cue m w) := by
  unfold Session.watched
  cases run : m w with
  | ok done w' =>
    rw [run] at kept
    exact kept
  | error i w' =>
    rw [run] at kept
    cases i with
    | failure f => exact noting f w' kept
    | exhausted => exact exhausted w' kept

end Rules

section Logs

variable {I : World κ μ → Prop} {E : Interrupt → World κ μ → Prop} {free : Nat → Prop} {h : Nat}

/-- A property bears the end of a host's test: what is printed, the failure of its test, and changes of
the host that leave its script and its log alone. -/
structure Closes (I : World κ μ → Prop) (E : Interrupt → World κ μ → Prop) (h : Nat) : Prop where
  prints : ∀ text, Keeps I E (SimM.print text : SimM κ μ Unit)
  change : ∀ {f : Host κ → Host κ}, (∀ host, (f host).script = host.script ∧
    (f host).log = host.log) → Keeps I E (Host.change h f : SimM κ μ Unit)
  failTest : ∀ reason, Keeps I E (Host.failTest h reason : SimM κ μ Unit)
  stop : Keeps I E (Simulation.stop : SimM κ μ Unit)

namespace Closes

theorem finish (closes : Closes I E h) : Keeps I E (Host.finish h : SimM κ μ Unit) := by
  unfold Host.finish
  refine Keeps.bind (closes.change fun _ => ⟨rfl, rfl⟩) fun _ => Keeps.reads fun w => ?_
  split
  · exact Keeps.pure _
  · split
    · exact (closes.failTest _).bind fun _ => closes.stop
    · exact closes.stop

/-- Dealing with a failure of a script keeps what the failure left behind. -/
theorem handleFailure (closes : Closes I E h) (f : Failure) :
    Keeps I E (Host.handleFailure h f : SimM κ μ Unit) := by
  unfold Host.handleFailure
  refine Keeps.bind (closes.change fun _ => ⟨rfl, rfl⟩) fun _ => Keeps.reads fun w => ?_
  split
  · exact Keeps.pure _
  · refine (closes.prints _).bind fun _ => (closes.failTest _).bind fun _ => ?_
    exact Keeps.bind (closes.change fun _ => ⟨rfl, rfl⟩) fun _ => closes.stop

end Closes

namespace Steady

theorem print (steady : Steady I E free) (text : String) :
    Keeps I E (SimM.print text : SimM κ μ Unit) :=
  Keeps.modify fun {w} kept => steady.seen kept (w.observer.print text)

/-- A change of a host that leaves its script alone. -/
theorem change (steady : Steady I E free) (exempt : free h) (f : Host κ → Host κ)
    (same : ∀ host, (f host).script = host.script := by exact fun _ => rfl) :
    Keeps I E (Host.change h f : SimM κ μ Unit) :=
  Keeps.modify fun kept => steady.changed exempt kept f same

theorem stop (steady : Steady I E free) : Keeps I E (Simulation.stop : SimM κ μ Unit) :=
  Keeps.modify fun kept => steady.stopped kept

/-- An operation on a log that fails only where the time cannot be written. -/
theorem onLog (steady : Steady I E free) (exempt : free h) {m : LogM Unit} {w : World κ μ}
    (kept : I w) (fails : ∀ s f s', m s = .error f s' →
      f = .unwritableInteger ∧ Numeral.isWritable w.now = false) :
    Kept I E (Host.onLog h m w) := by
  have put (log : TestLog) (observer : Observer) :
      I { w with hosts := w.hosts.modify h fun host => { host with log }, observer } :=
    steady.seen (steady.changed exempt kept (fun host => { host with log }) fun _ => rfl) observer
  unfold Host.onLog
  split
  · exact kept
  · simp only
    split
    · exact put _ _
    · rename_i failed
      obtain ⟨rfl, long⟩ := fails _ _ _ failed
      exact steady.unwritable (put _ _) long

theorem pass (steady : Steady I E free) (exempt : free h) :
    Keeps I E (Host.pass h : SimM κ μ Unit) := by
  intro w kept
  refine steady.onLog exempt kept ?_
  intro (log, o) f s' failed
  rcases TestLog.pass_cases w.now log o with ⟨o', passed⟩ | ⟨long, unwritten⟩
  · cases passed.symm.trans failed
  · cases unwritten.symm.trans failed
    exact ⟨rfl, long⟩

theorem failTest (steady : Steady I E free) (exempt : free h) (reason : String) :
    Keeps I E (Host.failTest h reason : SimM κ μ Unit) := by
  intro w kept
  refine steady.onLog exempt kept ?_
  intro (log, o) f s' failed
  obtain ⟨o', noted | ⟨long, unwritten⟩⟩ := TestLog.fail_cases w.now reason log o
  · cases noted.symm.trans failed
  · cases unwritten.symm.trans failed
    exact ⟨rfl, long⟩

theorem write (steady : Steady I E free) (exempt : free h) (text : String) (mote : Int) :
    Keeps I E (Host.write h text mote : SimM κ μ Unit) := by
  intro w kept
  change Kept I E (Host.onLog h (TestLog.write w.now text mote) w)
  refine steady.onLog exempt kept ?_
  intro s f s' failed
  cases failed

theorem closes (steady : Steady I E free) (exempt : free h) : Closes I E h where
  prints := steady.print
  change same := steady.change exempt _ fun host => (same host).1
  failTest := steady.failTest exempt
  stop := steady.stop

theorem finish (steady : Steady I E free) (exempt : free h) :
    Keeps I E (Host.finish h : SimM κ μ Unit) := (steady.closes exempt).finish

theorem handleFailure (steady : Steady I E free) (exempt : free h) (f : Failure) :
    Keeps I E (Host.handleFailure h f : SimM κ μ Unit) := (steady.closes exempt).handleFailure f

end Steady

end Logs

end MoteTrial.Session
