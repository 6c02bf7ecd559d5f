import MoteTrial.Proofs.Host.Operations

/-! # A host hears a line, or its deadline

The equations `hearLine_apply` and `expire_apply` carry what a script makes of a line, and of its
deadline, over to the world. `Heard` lists what has changed in the world by then.
-/

namespace MoteTrial

open SimM Simulation

variable {κ μ : Type}

namespace Answer

/-- The world once the script of a host has given an answer. -/
def given (h : Nat) (a : Answer κ) (w : World κ μ) : World κ μ :=
  match a.change? with
  | none => w.setHost h a.host
  | some (kind, first, second) => (w.changeLink kind first second).setHost h a.host

/-- The world once that answer is dealt with. -/
def dealt (h : Nat) (a : Answer κ) (w : World κ μ) : World κ μ :=
  match a.outcome with
  | .ok false => a.given h w
  | _ => ((a.given h w).setHost h a.settled).stopped

/-- An answer after which the test goes on and no link is changed, so that no time is written. -/
def Quiet (a : Answer κ) : Prop := a.outcome = .ok false ∧ a.change? = none

/-- The result of an operation that has the outcome of an answer. -/
def result {α : Type} (outcome : Except Failure α) (w : World κ μ) :
    EStateM.Result Interrupt (World κ μ) α :=
  match outcome with
  | .ok done => .ok done w
  | .error f => .error (.failure f) w

end Answer

section Line

variable {w : World κ μ} {h : Nat} {host : Host κ} {timeout : Int} {act : Behaviour κ μ}

theorem Host.changeLinkFault_apply (present : w.hosts[h]? = some host) {attached : Bool}
    {state : LinkFault} (script : host.script = .linkFault timeout attached state)
    (f : LinkFault → LinkFault) :
    Host.changeLinkFault h f w =
      .ok () (w.setHost h { host with script := .linkFault timeout attached (f state) }) := by
  unfold Host.changeLinkFault
  rw [Host.change_apply present]
  simp only [script]

/-- A change that the link-fault script makes of its link. -/
theorem Host.requestChange_apply (standard : w.config = Config.standard)
    (present : w.hosts[h]? = some host) {state : LinkFault}
    (script : host.script = .linkFault timeout true state) (kind : Change) (keyword : String)
    (f : LinkFault → LinkFault)
    (dated : ¬ (host.answerChange kind keyword timeout state (f state)).Quiet →
      Numeral.isWritable w.now = true) :
    ∃ o, (do let (a, b) ← ofExcept (state.endpoints keyword)
             changeLink kind a b
             Host.changeLinkFault h f
             return false : SimM κ μ Bool) w =
      Answer.result (host.answerChange kind keyword timeout state (f state)).outcome
        (((host.answerChange kind keyword timeout state (f state)).given h w).seenBy o) := by
  unfold Host.answerChange at dated ⊢
  cases ends : state.endpoints keyword with
  | error g =>
    refine ⟨w.observer, ?_⟩
    simp only [ofExcept_error_bind_apply, Answer.result, Answer.given, World.setHost_self present]
    rfl
  | ok pair =>
    obtain ⟨a, b⟩ := pair
    simp only [ofExcept_ok_bind_apply]
    by_cases both : (Numeral.isWritable a && Numeral.isWritable b) = true
    · obtain ⟨first, second⟩ := Bool.and_eq_true_iff.mp both
      have writable : Numeral.isWritable w.now = true := by
        refine dated fun quiet => ?_
        simp only [ends, both, ↓reduceIte] at quiet
        cases quiet.2
      obtain ⟨o, made⟩ := changeLink_apply standard writable kind first second
      refine ⟨o, ?_⟩
      rw [bind_ok made, bind_ok (Host.changeLinkFault_apply
        (w := (w.changeLink kind a b).seenBy o) present script f), if_pos both]
      rfl
    · refine ⟨w.observer, ?_⟩
      rw [bind_error (changeLink_unwritable standard kind both), if_neg both]
      simp only [Answer.result, Answer.given,
        World.setHost_self (w := w.changeLink kind a b) present]
      rfl

/-- An attached link-fault script handles a line. -/
theorem Host.handleLinkFault_apply (standard : w.config = Config.standard)
    (present : w.hosts[h]? = some host) {state : LinkFault}
    (script : host.script = .linkFault timeout true state) (mote : Int) (msg : String)
    (dated : ¬ (host.answerLinkFault timeout state mote msg).Quiet →
      Numeral.isWritable w.now = true) :
    ∃ o, Host.handleLinkFault h true state mote msg w =
      Answer.result (host.answerLinkFault timeout state mote msg).outcome
        (((host.answerLinkFault timeout state mote msg).given h w).seenBy o) := by
  unfold Host.answerLinkFault at dated
  unfold Host.handleLinkFault Host.answerLinkFault
  rw [get_bind_apply, standard]
  cases kind : Message.classify msg with
  | done =>
    rw [kind] at dated
    obtain ⟨o, passed⟩ := Host.pass_apply present (dated fun quiet => by cases quiet.1)
    refine ⟨o, ?_⟩
    simp only [Bool.not_true, Bool.false_eq_true, ↓reduceIte]
    rw [bind_ok passed]
    rfl
  | deteriorate =>
    rw [kind] at dated
    exact Host.requestChange_apply standard present script _ _ _ dated
  | improve =>
    rw [kind] at dated
    exact Host.requestChange_apply standard present script _ _ _ dated
  | started =>
    refine ⟨w.observer, ?_⟩
    cases Message.startedEndpoint? Config.standard msg with
    | none => simp only [pure_apply, Answer.result, Answer.given, World.setHost_self present]; rfl
    | some endpoint =>
      simp only
      rw [bind_ok (Host.changeLinkFault_apply present script _)]
      rfl
  | other =>
    obtain ⟨o, wrote⟩ := Host.write_apply present (msg ++ "\n") mote
    refine ⟨o, ?_⟩
    simp only [Bool.not_true, Bool.false_eq_true, ↓reduceIte]
    rw [bind_ok wrote, bind_ok (Host.changeLinkFault_apply
      (w := (w.setHost h { host with log := host.log.added (msg ++ "\n") }).seenBy o)
      (World.hosts_setHost present _) script _)]
    simp only [World.setHost_seenBy, World.setHost_setHost]
    rfl

/-- The reception script logs its line if the integers in it can be written. -/
theorem Host.reportReception_apply (present : w.hosts[h]? = some host) (state : Reception)
    (counter mote : Int) :
    ∃ o, (do let shown ← ofExcept (writeInt counter)
             let lost ← ofExcept (writeInt (state.record counter).lost)
             let last ← ofExcept (writeInt state.last)
             Host.write h (shown ++ " " ++ lost ++ " " ++ last ++ "\n") mote
             return false : SimM κ μ Bool) w =
      if Host.canLog state counter then
        .ok false ((w.setHost h
          { host with log := host.log.added (receptionLine state counter) }).seenBy o)
      else .error (.failure .unwritableInteger) w := by
  unfold Host.canLog
  cases shown : Numeral.isWritable counter with
  | false =>
    refine ⟨w.observer, ?_⟩
    simp only [writeInt_unwritable shown, ofExcept_error_bind_apply, settled_unwritable,
      Bool.false_and, Bool.false_eq_true, ↓reduceIte]
  | true =>
  cases lost : Numeral.isWritable (state.record counter).lost with
  | false =>
    refine ⟨w.observer, ?_⟩
    simp only [writeInt_apply shown, writeInt_unwritable lost, ofExcept_ok_bind_apply,
      ofExcept_error_bind_apply, settled_unwritable, Bool.and_false, Bool.false_and,
      Bool.false_eq_true, ↓reduceIte]
  | true =>
  cases last : Numeral.isWritable state.last with
  | false =>
    refine ⟨w.observer, ?_⟩
    simp only [writeInt_apply shown, writeInt_apply lost, writeInt_unwritable last,
      ofExcept_ok_bind_apply, ofExcept_error_bind_apply, settled_unwritable, Bool.and_false,
      Bool.false_eq_true, ↓reduceIte]
  | true =>
    obtain ⟨o, wrote⟩ := Host.write_apply present (receptionLine state counter) mote
    refine ⟨o, ?_⟩
    simp only [writeInt_apply shown, writeInt_apply lost, writeInt_apply last,
      ofExcept_ok_bind_apply, Bool.and_self, ↓reduceIte]
    exact bind_ok wrote _

/-- An attached reception script handles a line. -/
theorem Host.handleReception_apply (timeout : Int) (standard : w.config = Config.standard)
    (present : w.hosts[h]? = some host) (state : Reception) (mote : Int) (msg : String) :
    ∃ o, Host.handleReception h timeout true none state mote msg w =
      Answer.result (host.answerReception timeout state msg).outcome
        (((host.answerReception timeout state msg).given h w).seenBy o) := by
  unfold Host.handleReception Host.answerReception
  rw [get_bind_apply, standard]
  cases Message.parseReceived Config.standard msg with
  | error f =>
    refine ⟨w.observer, ?_⟩
    simp only [ofExcept_error_bind_apply, Answer.result, Answer.given, World.setHost_self present]
    rfl
  | ok found =>
    simp only [ofExcept_ok_bind_apply]
    cases found with
    | none =>
      refine ⟨w.observer, ?_⟩
      simp only [pure_apply, Answer.result, Answer.given, World.setHost_self present]
      rfl
    | some counter =>
      let counted : Host κ :=
        { host with script := .reception timeout true none (state.record counter) }
      have noted := Host.change_apply present fun host =>
        { host with script := .reception timeout true none (state.record counter) }
      obtain ⟨o, reported⟩ := Host.reportReception_apply
        (World.hosts_setHost present counted) state counter mote
      simp only [Bool.not_true, Bool.false_eq_true, ↓reduceIte]
      rw [bind_ok noted]
      cases logged : Host.canLog state counter with
      | false =>
        rw [logged] at reported
        exact ⟨w.observer, reported⟩
      | true =>
        rw [logged] at reported
        refine ⟨o, reported.trans ?_⟩
        simp only [↓reduceIte, World.setHost_setHost]
        rfl

/-- A link-fault script handles a line by what it remembers. -/
theorem Host.handle_linkFault (act : Behaviour κ μ) (present : w.hosts[h]? = some host)
    {attached : Bool} {state : LinkFault} (script : host.script = .linkFault timeout attached state)
    (mote : Int) (msg : String) :
    Host.handle act h mote msg w = Host.handleLinkFault h attached state mote msg w := by
  unfold Host.handle
  rw [get_bind_apply]
  simp only [present, script]

/-- A host with a built-in script handles a line. -/
theorem Host.handle_apply (act : Behaviour κ μ) (standard : w.config = Config.standard)
    (present : w.hosts[h]? = some host) (builtIn : host.BuiltIn timeout) (mote : Int) (msg : String)
    (dated : ¬ (host.answer mote msg).Quiet → Numeral.isWritable w.now = true) :
    ∃ o, Host.handle act h mote msg (w.setHost h (host.facing mote msg)) =
      Answer.result (host.answer mote msg).outcome
        (((host.answer mote msg).given h w).seenBy o) := by
  have there := World.hosts_setHost present (host.facing mote msg)
  have given (a : Answer κ) :
      a.given h (w.setHost h (host.facing mote msg)) = a.given h w := by
    unfold Answer.given
    split
    · exact World.setHost_setHost ..
    · exact World.setHost_setHost (w.changeLink _ _ _) ..
  unfold Host.handle
  rw [get_bind_apply]
  simp only [there]
  obtain ⟨state, script⟩ | ⟨state, script⟩ := builtIn.attached
  · have script' : (host.facing mote msg).script = .linkFault timeout true state := script
    simp only [Host.answer, script] at dated
    obtain ⟨o, done⟩ := Host.handleLinkFault_apply (w := w.setHost h (host.facing mote msg))
      standard there script' mote msg dated
    rw [given] at done
    exact ⟨o, by simpa only [Host.answer, script, script'] using done⟩
  · have script' : (host.facing mote msg).script = .reception timeout true none state := script
    obtain ⟨o, done⟩ := Host.handleReception_apply (w := w.setHost h (host.facing mote msg))
      timeout standard there state mote msg
    rw [given] at done
    exact ⟨o, by simpa only [Host.answer, script, script'] using done⟩

theorem Host.guarded_ok {m : SimM κ μ Bool} {done : Bool} {w' : World κ μ}
    (run : m w = .ok done w') : Host.guarded h m w = .ok done w' := by
  simp only [Host.guarded, run]

theorem Host.guarded_error {m : SimM κ μ Bool} {f : Failure} {w' : World κ μ}
    (run : m w = .error (.failure f) w') (present : w'.hosts[h]? = some host)
    (writable : Numeral.isWritable w'.now = true) :
    ∃ o, Host.guarded h m w =
      .error (.failure f) ((w'.setHost h (host.crashed f)).stopped.seenBy o) := by
  obtain ⟨o, dealt⟩ := Host.handleFailure_apply present writable f
  refine ⟨o, ?_⟩
  simp only [Host.guarded, run]
  rw [bind_ok dealt]
  rfl

theorem Answer.hosts_given (present : w.hosts[h]? = some host) (a : Answer κ) :
    (a.given h w).hosts[h]? = some a.host := by
  unfold Answer.given
  split
  · exact World.hosts_setHost present _
  · exact World.hosts_setHost (w := w.changeLink _ _ _) present _

@[simp] theorem Answer.now_given (a : Answer κ) (w : World κ μ) : (a.given h w).now = w.now := by
  unfold Answer.given
  split <;> rfl

theorem Host.hearLine_finished (present : w.hosts[h]? = some host)
    (finished : host.finished = true) (mote : Int) (msg : String) :
    Host.hearLine act h mote msg w = .ok () w := by
  unfold Host.hearLine
  rw [get_bind_apply]
  simp only [present, finished, ↓reduceIte]
  rfl

/-- An unfinished host faces the line, hands it to its script, and ends if the script is done. -/
theorem Host.hearLine_listening (act : Behaviour κ μ) (present : w.hosts[h]? = some host)
    (listening : host.finished = false) (mote : Int) (msg : String) :
    Host.hearLine act h mote msg w =
      (do
        let done ← Host.guarded h (Host.handle act h mote msg)
        if done then
          match (← get).hosts[h]? with
          | none => return
          | some host => if !host.finished then Host.finish h : SimM κ μ Unit)
        (w.setHost h (host.facing mote msg)) := by
  unfold Host.hearLine
  rw [get_bind_apply]
  simp only [present, listening, Bool.false_eq_true, ↓reduceIte]
  rw [bind_ok (Host.change_apply present fun host => { host with mote := some mote, msg := some msg })]
  rfl

/-- An unfinished host with a built-in script hears a line. -/
theorem Host.hearLine_apply (act : Behaviour κ μ) (standard : w.config = Config.standard)
    (present : w.hosts[h]? = some host) (builtIn : host.BuiltIn timeout)
    (listening : host.finished = false) (mote : Int) (msg : String)
    (dated : ¬ (host.answer mote msg).Quiet → Numeral.isWritable w.now = true) :
    ∃ o, Host.hearLine act h mote msg w =
      Answer.result ((host.answer mote msg).outcome.map fun _ => ())
        (((host.answer mote msg).dealt h w).seenBy o) := by
  obtain ⟨o, handled⟩ := Host.handle_apply act standard present builtIn mote msg dated
  have unended := (Host.answer_from builtIn mote msg).finished.trans listening
  rw [Host.hearLine_listening act present listening]
  generalize host.answer mote msg = a at handled unended dated ⊢
  have there : ((a.given h w).seenBy o).hosts[h]? = some a.host := Answer.hosts_given present a
  have writable (ends : a.outcome ≠ .ok false) :
      Numeral.isWritable ((a.given h w).seenBy o).now = true := by
    rw [World.now_seenBy, Answer.now_given]
    exact dated fun quiet => ends quiet.1
  cases outcome : a.outcome with
  | error f =>
    rw [outcome] at handled
    obtain ⟨o', guarded⟩ := Host.guarded_error handled there (writable (by simp [outcome]))
    refine ⟨o', (bind_error guarded _).trans ?_⟩
    simp only [Answer.dealt, Answer.settled, outcome]
    rfl
  | ok done =>
    rw [outcome] at handled
    have guarded := Host.guarded_ok (h := h) handled
    cases done with
    | false =>
      refine ⟨o, (bind_ok guarded _).trans ?_⟩
      simp only [Answer.dealt, outcome]
      rfl
    | true =>
      obtain ⟨o', finished⟩ := Host.finish_apply there (writable (by simp [outcome]))
      refine ⟨o', (bind_ok guarded _).trans ?_⟩
      simp only [↓reduceIte, get_bind_apply, there, unended, Bool.not_false]
      rw [finished]
      simp only [Answer.dealt, Answer.settled, outcome]
      rfl

/-- The medium after an answer. -/
def Answer.medium (a : Answer κ) (now : Int) (m : Medium) : Medium :=
  match a.change? with
  | none => m
  | some (kind, first, second) => m.changed now kind first second

/-- The scheduler after an answer. -/
def Answer.scheduler (a : Answer κ) (s : Scheduler (Event κ)) : Scheduler (Event κ) :=
  match a.outcome with
  | .ok false => s
  | _ => s.stop

/-- What has changed once an answer of a script is dealt with. -/
structure Heard (h : Nat) (a : Answer κ) (w w' : World κ μ) : Prop where
  host : w'.hosts[h]? = some a.settled
  medium : w'.medium = a.medium w.now w.medium
  scheduler : w'.scheduler = a.scheduler w.scheduler
  config : w'.config = w.config
  motes : w'.motes = w.motes
  jitter : w'.jitter = w.jitter
  listeners : w'.listeners = w.listeners
  radioTrace : w'.radioTrace = w.radioTrace
  memory : w'.memory = w.memory

theorem Answer.given_eq (h : Nat) (a : Answer κ) (w : World κ μ) :
    a.given h w = { w.setHost h a.host with medium := a.medium w.now w.medium } := by
  unfold Answer.given Answer.medium
  split <;> rfl

theorem Answer.dealt_eq (h : Nat) (a : Answer κ) (w : World κ μ) :
    a.dealt h w =
      { w.setHost h a.settled with
        medium := a.medium w.now w.medium, scheduler := a.scheduler w.scheduler } := by
  unfold Answer.dealt
  split
  · rename_i outcome
    simp only [Answer.given_eq, Answer.settled, Answer.scheduler, outcome]
    rfl
  · rename_i other
    have scheduler : a.scheduler w.scheduler = w.scheduler.stop := by
      unfold Answer.scheduler
      split
      · rename_i outcome
        exact (other outcome).elim
      · rfl
    simp only [scheduler, Answer.given_eq, World.stopped, World.setHost,
      Array.setIfInBounds_setIfInBounds]

theorem Answer.heard_dealt (present : w.hosts[h]? = some host) (a : Answer κ) (o : Observer) :
    Heard h a w ((a.dealt h w).seenBy o) := by
  rw [Answer.dealt_eq]
  exact ⟨World.hosts_setHost present _, rfl, rfl, rfl, rfl, rfl, rfl, rfl, rfl⟩

/-- An answer that asks for no change leaves the medium as it is. -/
theorem Heard.medium_eq {a : Answer κ} {w' : World κ μ} (heard : Heard h a w w')
    (still : a.change? = none) : w'.medium = w.medium := by
  rw [heard.medium, Answer.medium, still]

/-- An answer after which the test goes on leaves the scheduler as it is. -/
theorem Heard.scheduler_eq {a : Answer κ} {w' : World κ μ} (heard : Heard h a w w')
    (more : a.outcome = .ok false) : w'.scheduler = w.scheduler := by
  rw [heard.scheduler, Answer.scheduler, more]

/-- An unfinished host with a built-in script hears a line, and nothing but what its answer asks for is
changed. -/
theorem Host.hearLine_heard (act : Behaviour κ μ) (standard : w.config = Config.standard)
    (present : w.hosts[h]? = some host) (builtIn : host.BuiltIn timeout)
    (listening : host.finished = false) (mote : Int) (msg : String)
    (dated : ¬ (host.answer mote msg).Quiet → Numeral.isWritable w.now = true) :
    ∃ w', Host.hearLine act h mote msg w =
        Answer.result ((host.answer mote msg).outcome.map fun _ => ()) w' ∧
      Heard h (host.answer mote msg) w w' := by
  obtain ⟨o, heard⟩ := Host.hearLine_apply act standard present builtIn listening mote msg dated
  exact ⟨_, heard, Answer.heard_dealt present _ o⟩

theorem Host.deadlineAction_apply (act : Behaviour κ μ) (standard : w.config = Config.standard)
    (writable : Numeral.isWritable w.now = true) (present : w.hosts[h]? = some host)
    (builtIn : host.BuiltIn timeout) (deadline : Numeral.isWritable timeout = true) :
    ∃ o, Host.deadlineAction act h .builtIn w =
      .ok false ((w.setHost h host.acted).seenBy o) := by
  unfold Host.deadlineAction Host.acted
  simp only [get_bind_apply, present]
  obtain ⟨state, script⟩ | ⟨state, script⟩ := builtIn.attached
  · obtain ⟨o, failed⟩ := Host.failTest_apply present writable ("no '" ++
      Config.standard.keywordDone ++ "' within " ++ Numeral.decimal timeout ++ "ms")
    simp only [script, writeInt_apply deadline, ofExcept_ok_bind_apply, standard] at failed ⊢
    exact ⟨o, bind_ok failed _⟩
  · simp only [script]
    cases state.success with
    | true =>
      obtain ⟨o, passed⟩ := Host.pass_apply present writable
      simp only [script, ↓reduceIte] at passed ⊢
      exact ⟨o, bind_ok passed _⟩
    | false =>
      refine ⟨w.observer, ?_⟩
      simp only [Bool.false_eq_true, ↓reduceIte, World.setHost_self present]
      rfl

/-- The deadline of a finished host passes unheeded. -/
theorem Host.expire_finished (act : Behaviour κ μ) (present : w.hosts[h]? = some host)
    (finished : host.finished = true) (after : Int) (action : Expiry κ) :
    Host.expire act h after action w = .ok () w := by
  unfold Host.expire
  rw [get_bind_apply]
  simp only [present, finished, ↓reduceIte]
  rfl

/-- The deadline of an unfinished host with a built-in script expires. -/
theorem Host.expire_apply (act : Behaviour κ μ) (standard : w.config = Config.standard)
    (writable : Numeral.isWritable w.now = true) (present : w.hosts[h]? = some host)
    (builtIn : host.BuiltIn timeout) (listening : host.finished = false)
    (deadline : Numeral.isWritable timeout = true) :
    ∃ o, Host.expire act h timeout .builtIn w =
      .ok () ((w.setHost h host.expired).stopped.seenBy o) := by
  let late : Host κ := { host with timedOut := true }
  unfold Host.expire
  rw [get_bind_apply]
  simp only [present, listening, Bool.false_eq_true, ↓reduceIte]
  rw [bind_ok (Host.change_apply present fun host => { host with timedOut := true })]
  simp only [writeInt_apply deadline, ofExcept_ok_bind_apply, print_bind_apply]
  generalize Observer.print _ _ = told
  have there : ((w.setHost h late).seenBy told).hosts[h]? = some late :=
    World.hosts_setHost present late
  obtain ⟨o, acted⟩ := Host.deadlineAction_apply act
    (w := (w.setHost h late).seenBy told) standard writable there
    ⟨builtIn.untraced, builtIn.attached⟩ deadline
  have after : ((((w.setHost h late).seenBy told).setHost h late.acted).seenBy o).hosts[h]? =
      some late.acted := World.hosts_setHost there _
  obtain ⟨o', finished⟩ := Host.finish_apply after writable
  refine ⟨o', (bind_ok (Host.guarded_ok acted) _).trans ?_⟩
  rw [finished]
  simp only [World.setHost_seenBy, World.setHost_setHost, World.seenBy_seenBy, World.stopped_seenBy]
  rfl

/-- A deadline that is too long a number to be written is not announced. -/
theorem Host.expire_unwritable (act : Behaviour κ μ) (present : w.hosts[h]? = some host)
    (listening : host.finished = false) (long : Numeral.isWritable timeout = false) (action : Expiry κ) :
    ∃ w', Host.expire act h timeout action w = .error (.failure .unwritableInteger) w' ∧
      w'.motes = w.motes := by
  unfold Host.expire
  rw [get_bind_apply]
  simp only [present, listening, Bool.false_eq_true, ↓reduceIte]
  rw [bind_ok (Host.change_apply present fun host => { host with timedOut := true })]
  simp only [writeInt_unwritable long, ofExcept_error_bind_apply, settled_unwritable]
  exact ⟨_, rfl, rfl⟩

end Line

end MoteTrial
