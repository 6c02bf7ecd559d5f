import MoteTrial.Proofs.Deadline.Test
import MoteTrial.Proofs.Session.Operations

/-! # Tests end at times that can be written

Whatever decides a test writes the time, and a test that ends stops the simulation. So if the test of a
built-in script returns, its time can be written: `runScript_punctual`. This needs nothing of the
simulation but that no code of users' own takes part in it.
-/

namespace MoteTrial.Session

open SimM Simulation Scenario

variable {κ μ : Type} {α : Type}

/-- A property of worlds that an operation keeps if it returns. -/
abbrev KeepsReturning (I : World κ μ → Prop) (m : SimM κ μ α) : Prop := Keeps I (fun _ _ => True) m

section Returns

variable {I : World κ μ → Prop} {w : World κ μ}

theorem Kept.of_returns {r : EStateM.Result Interrupt (World κ μ) α} (returns : Returns (fun _ => I) r) :
    Kept I (fun _ _ => True) r := by
  cases r with
  | ok a w => exact returns
  | error i w => trivial

/-- A failure that is dealt with does not return. -/
theorem returns_guarded {good : Bool → World κ μ → Prop} {m : SimM κ μ Bool} (h : Nat)
    (part : Returns good (m w)) : Returns good (Host.guarded h m w) := by
  unfold Host.guarded
  cases run : m w with
  | ok done w' =>
    rw [run] at part
    exact part
  | error i w' =>
    cases i with
    | exhausted => trivial
    | failure f =>
      dsimp only
      cases dealt : Host.handleFailure h f w' with
      | ok _ _ =>
        rw [bind_ok dealt]
        trivial
      | error _ _ =>
        rw [bind_error dealt]
        trivial

end Returns

section States

variable {w w' : World κ μ} {host : Host κ} {h : Nat}

/-- A test that goes on, and is not decided. -/
structure Undecided (host : Host κ) : Prop where
  unfinished : host.finished = false
  undecided : host.log.verdict = none

/-- A world with a test that goes on, and is not decided. -/
def Trying (w : World κ μ) : Prop := ∃ host, w.hosts = #[host] ∧ Undecided host

/-- A world with a test that goes on, and is decided only if the time can be written. -/
def Deciding (w : World κ μ) : Prop :=
  ∃ host, w.hosts = #[host] ∧ host.finished = false ∧
    (host.log.verdict = none ∨ Numeral.isWritable w.now = true)

/-- A world whose test has ended, and the simulation with it, at a time that can be written. -/
structure Decided (w : World κ μ) : Prop where
  finished : ∃ host, w.hosts = #[host] ∧ host.finished = true
  stopped : w.scheduler.stopped = true
  writable : Numeral.isWritable w.now = true

/-- A world with a test that goes on undecided, or has ended in time. -/
def Punctual (w : World κ μ) : Prop := Trying w ∨ Decided w

theorem Trying.deciding (trying : Trying w) : Deciding w := by
  obtain ⟨host, alone, unfinished, undecided⟩ := trying
  exact ⟨host, alone, unfinished, .inl undecided⟩

theorem present_of_alone (alone : w.hosts = #[host]) : w.hosts[0]? = some host := by
  rw [alone]
  rfl

theorem only_of_alone (alone : w.hosts = #[host]) {other : Host κ}
    (present : w.hosts[h]? = some other) : h = 0 ∧ other = host := by
  rw [alone] at present
  cases h with
  | zero => exact ⟨rfl, (Option.some.inj present).symm⟩
  | succ h => cases present

theorem alone_setHost (alone : w.hosts = #[host]) (host' : Host κ) :
    (w.setHost 0 host').hosts = #[host'] := by
  simp [World.setHost, alone]

/-- Undecided tests are told by their hosts. -/
theorem Trying.of_hosts (trying : Trying w) (hosts : w'.hosts = w.hosts) : Trying w' := by
  obtain ⟨host, alone, undecided⟩ := trying
  exact ⟨host, hosts.trans alone, undecided⟩

theorem carries_trying : Carries (κ := κ) (μ := μ) Trying fun _ _ => True :=
  ⟨fun trying apart => trying.of_hosts apart.hosts, fun _ _ => trivial⟩

theorem Decided.of_same (decided : Decided w) (hosts : w'.hosts = w.hosts)
    (stopped : w'.scheduler.stopped = w.scheduler.stopped) (now : w'.now = w.now) : Decided w' := by
  refine ⟨?_, stopped.trans decided.stopped, ?_⟩
  · rw [hosts]
    exact decided.finished
  · rw [now]
    exact decided.writable

theorem moves_punctual : Moves (κ := κ) (μ := μ) Punctual fun _ _ => True where
  quiet := by
    rintro w w' (trying | decided) quiet
    · exact .inl (trying.of_hosts quiet.hosts)
    · refine .inr (decided.of_same quiet.hosts (by rw [quiet.scheduler]) ?_)
      rw [World.now, quiet.scheduler]
      rfl
  failed _ _ := trivial

/-- Time passes only while a test goes on. -/
theorem paced_punctual : Paced (κ := κ) (μ := μ) Punctual (fun _ _ => True) fun _ _ => True where
  interrupted _ _ := trivial
  registered := by
    rintro w (trying | decided) due - event -
    · exact .inl (trying.of_hosts rfl)
    · exact .inr (decided.of_same rfl rfl rfl)
  taken := by
    rintro w (trying | decided) running a s takes
    · exact .inl (trying.of_hosts rfl)
    · cases running.symm.trans decided.stopped
  counted := by
    rintro w (trying | decided)
    · exact .inl (trying.of_hosts rfl)
    · exact .inr (decided.of_same rfl rfl rfl)
  pending _ a _ := said_any a.event
  voiced _ _ _ _ _ := trivial

end States

section Hosts

variable {w : World κ μ} {host : Host κ} {h : Nat}

theorem absent_of_alone (alone : w.hosts = #[host]) (other : h ≠ 0) : w.hosts[h]? = none := by
  rw [alone]
  exact Array.getElem?_eq_none (Nat.one_le_iff_ne_zero.mpr other)

/-- A host changes without an end and a verdict. -/
theorem change_trying {f : Host κ → Host κ} (undecided : ∀ host, Undecided host → Undecided (f host)) :
    KeepsReturning Trying (Host.change h f : SimM κ μ Unit) := by
  rintro w ⟨host, alone, goes⟩
  by_cases own : h = 0
  · subst own
    rw [Host.change_apply (present_of_alone alone)]
    exact ⟨f host, alone_setHost alone _, undecided host goes⟩
  · rw [Host.change_absent (absent_of_alone alone own)]
    exact ⟨host, alone, goes⟩

theorem write_trying (text : String) (mote : Int) :
    KeepsReturning Trying (Host.write h text mote : SimM κ μ Unit) := by
  rintro w ⟨host, alone, goes⟩
  change Kept _ _ (Host.onLog h (TestLog.write w.now text mote) w)
  by_cases own : h = 0
  · subst own
    obtain ⟨o, written⟩ := TestLog.write_apply w.now text mote host.log w.observer
    rw [Host.onLog_apply (present_of_alone alone) written]
    exact ⟨_, alone_setHost alone _, goes.unfinished, goes.undecided⟩
  · rw [Host.onLog_absent (absent_of_alone alone own)]
    exact ⟨host, alone, goes⟩

/-- An operation on the log of a test decides it only at a time that can be written. -/
theorem onLog_deciding {m : LogM Unit} (deciding : Deciding w)
    (writes : ∀ log o log' o', m (log, o) = .ok () (log', o') → log.verdict = none →
      Numeral.isWritable w.now = true) :
    Kept Deciding (fun _ _ => True) (Host.onLog h m w) := by
  obtain ⟨host, alone, unfinished, decided⟩ := deciding
  by_cases own : h = 0
  · subst own
    have present := present_of_alone alone
    cases ran : m (host.log, w.observer) with
    | ok _ s =>
      obtain ⟨log, o⟩ := s
      rw [Host.onLog_apply present ran]
      refine ⟨_, alone_setHost alone { host with log }, unfinished, .inr ?_⟩
      rcases decided with undecided | writable
      · exact writes _ _ _ _ ran undecided
      · exact writable
    | error f s =>
      obtain ⟨log, o⟩ := s
      rw [Host.onLog_error present ran]
      trivial
  · rw [Host.onLog_absent (absent_of_alone alone own)]
    exact ⟨host, alone, unfinished, decided⟩

theorem pass_deciding : KeepsReturning Deciding (Host.pass h : SimM κ μ Unit) := by
  intro w deciding
  refine onLog_deciding deciding fun log o log' o' ran undecided => ?_
  cases writable : Numeral.isWritable w.now with
  | true => rfl
  | false =>
    have unpassed : log.verdict ≠ some .passed := by rw [undecided]; nofun
    cases ran.symm.trans (TestLog.pass_unwritable writable unpassed o)

theorem failTest_deciding (reason : String) :
    KeepsReturning Deciding (Host.failTest h reason : SimM κ μ Unit) := by
  intro w deciding
  refine onLog_deciding deciding fun log o log' o' ran undecided => ?_
  cases writable : Numeral.isWritable w.now with
  | true => rfl
  | false =>
    have unpassed : log.verdict ≠ some .passed := by rw [undecided]; nofun
    cases ran.symm.trans (TestLog.fail_unwritable writable unpassed reason o)

/-- A test ends in time: one without a verdict is failed, which writes the time. -/
theorem finish_deciding (deciding : Deciding w) :
    Kept Decided (fun _ _ => True) (Host.finish 0 w) := by
  obtain ⟨host, alone, unfinished, decided⟩ := deciding
  have present := present_of_alone alone
  cases writable : Numeral.isWritable w.now with
  | true =>
    obtain ⟨o, finished⟩ := Host.finish_apply present writable
    rw [finished]
    exact ⟨⟨host.closed, alone_setHost alone _, rfl⟩, rfl, writable⟩
  | false =>
    have undecided : host.log.verdict = none := by
      rcases decided with undecided | short
      · exact undecided
      · cases writable.symm.trans short
    have first := Host.change_apply present fun host => { host with finished := true }
    have there := World.hosts_setHost present { host with finished := true }
    have unpassed : host.log.verdict ≠ some .passed := by rw [undecided]; nofun
    obtain ⟨w', failed⟩ := Host.failTest_unwritable there writable unpassed
      (if host.timedOut then "timeout" else "script ended without test_ok")
    unfold Host.finish
    rw [bind_ok first, get_bind_apply]
    simp only [World.hosts_setHost present, undecided, Option.isNone_none, ↓reduceIte]
    rw [bind_error failed]
    trivial

end Hosts

section Test

variable {act : Behaviour κ μ} {w : World κ μ} {h : Nat}

/-- Users' code raises wherever it is called. -/
def Refuses (act : Behaviour κ μ) : Prop := ∀ c cue w, ∃ i w', act c cue w = .error i w'

theorem Refuses.returns (refuses : Refuses act) (good : Bool → World κ μ → Prop) (c : κ) (cue : Cue)
    (w : World κ μ) : Returns good (act c cue w) := by
  obtain ⟨i, w', raised⟩ := refuses c cue w
  rw [raised]
  trivial

/-- A line leaves a test undecided, or it is the last one and the script is done. -/
theorem handle_returns (refuses : Refuses act) (h : Nat) (mote : Int) (msg : String)
    (trying : Trying w) :
    Returns (fun done w => Trying w ∨ done = true ∧ Deciding w) (Host.handle act h mote msg w) := by
  have goes {m : SimM κ μ Bool} (keeps : KeepsReturning Trying m) :
      Returns (fun done w => Trying w ∨ done = true ∧ Deciding w) (m w) :=
    (keeps w trying).returns.imp fun _ _ => .inl
  unfold Host.handle
  rw [get_bind_apply]
  cases w.hosts[h]? with
  | none => exact .inl trying
  | some host =>
    dsimp only
    cases host.script with
    | linkFault timeout attached state =>
      by_cases ends : Message.classify msg = .done
      · unfold Host.handleLinkFault
        simp only [get_bind_apply, ends]
        cases attached with
        | false => trivial
        | true =>
          have passed := (pass_deciding (h := h) w trying.deciding).returns
          exact passed.bind fun _ w deciding => .inr ⟨rfl, deciding⟩
      · refine goes (Keeps.handleLinkFault (fun _ _ => trivial) carries_trying.changeLink
          write_trying (fun f => change_trying ?_) fun done => absurd done ends)
        rintro host ⟨unfinished, undecided⟩
        split
        · exact ⟨unfinished, undecided⟩
        · exact ⟨unfinished, undecided⟩
    | reception timeout attached trace state =>
      refine goes (Keeps.handleReception (fun _ _ => trivial) (fun state => change_trying ?_)
        write_trying fun _ _ _ => carries_trying.observe _)
      exact fun host undecided => ⟨undecided.unfinished, undecided.undecided⟩
    | code c => exact refuses.returns _ c _ w

theorem hearLine_punctual (refuses : Refuses act) (h : Nat) (mote : Int) (msg : String) :
    KeepsReturning Punctual (Host.hearLine act h mote msg) := by
  intro w punctual
  cases present : w.hosts[h]? with
  | none =>
    unfold Host.hearLine
    rw [get_bind_apply]
    simp only [present]
    exact punctual
  | some host =>
    rcases punctual with trying | decided
    · obtain ⟨only, alone, goes⟩ := trying
      obtain ⟨rfl, rfl⟩ := only_of_alone alone present
      rw [Host.hearLine_listening act present goes.unfinished]
      have facing : Trying (w.setHost 0 (host.facing mote msg)) :=
        ⟨_, alone_setHost alone _, goes.unfinished, goes.undecided⟩
      refine .of_returns ((returns_guarded 0 (handle_returns refuses 0 mote msg facing)).bind
        fun done w answered => ?_)
      cases done with
      | false => exact .inl (answered.resolve_right nofun)
      | true =>
        have deciding : Deciding w := answered.elim Trying.deciding (·.2)
        obtain ⟨host, alone, unfinished, decided⟩ := deciding
        simp only [↓reduceIte, get_bind_apply, present_of_alone alone, unfinished, Bool.not_false]
        exact ((finish_deciding ⟨host, alone, unfinished, decided⟩).imp (fun _ => .inr)
          fun _ _ raised => raised).returns
    · obtain ⟨only, alone, finished⟩ := decided.finished
      obtain ⟨rfl, rfl⟩ := only_of_alone alone present
      rw [Host.hearLine_finished present finished]
      exact .inr decided

theorem deadlineAction_deciding (refuses : Refuses act) (action : Expiry κ) :
    KeepsReturning Deciding (Host.deadlineAction act h action) := by
  refine Keeps.deadlineAction (fun _ _ => trivial) ?_ failTest_deciding pass_deciding
  exact fun c _ w _ => .of_returns (refuses.returns _ c _ w)

theorem expire_punctual (refuses : Refuses act) (h : Nat) (after : Int) (action : Expiry κ) :
    KeepsReturning Punctual (Host.expire act h after action) := by
  intro w punctual
  cases present : w.hosts[h]? with
  | none =>
    unfold Host.expire
    rw [get_bind_apply]
    simp only [present]
    exact punctual
  | some host =>
    rcases punctual with trying | decided
    · obtain ⟨only, alone, goes⟩ := trying
      obtain ⟨rfl, rfl⟩ := only_of_alone alone present
      unfold Host.expire
      rw [get_bind_apply]
      simp only [present, goes.unfinished, Bool.false_eq_true, ↓reduceIte]
      have late : KeepsReturning Trying
          (Host.change 0 fun host => { host with timedOut := true } : SimM κ μ Unit) :=
        change_trying fun host undecided => ⟨undecided.unfinished, undecided.undecided⟩
      refine (late w ⟨host, alone, goes⟩).bind fun _ w trying => ?_
      refine (Keeps.ofExcept (fun _ _ => trivial) _ w trying).bind fun _ w trying => ?_
      refine (carries_trying.print _ w trying).bind fun _ w trying => ?_
      have acted : KeepsReturning Deciding (Host.deadlineAction act 0 action) :=
        deadlineAction_deciding refuses action
      have settled := returns_guarded 0 (acted w trying.deciding).returns
      refine Kept.bind (.of_returns settled) fun _ w deciding => ?_
      exact (finish_deciding deciding).imp (fun _ => .inr) fun _ _ raised => raised
    · obtain ⟨only, alone, finished⟩ := decided.finished
      obtain ⟨rfl, rfl⟩ := only_of_alone alone present
      rw [Host.expire_finished act present finished]
      exact .inr decided

theorem start_punctual (refuses : Refuses act) (trying : Trying w) :
    Kept Punctual (fun _ _ => True) (Host.start act h w) := by
  have registers {after : Int} {f : Host κ → Host κ}
      (undecided : ∀ host, Undecided host → Undecided (f host)) :
      Kept Punctual (fun _ _ => True) ((do
        Host.change h f
        Host.registerDeadline h after .builtIn
        return false : SimM κ μ Bool) w) := by
    refine (change_trying undecided w trying).bind fun _ w trying => ?_
    refine Kept.bind (I := Punctual) ?_ fun _ w punctual => punctual
    unfold Host.registerDeadline
    rw [get_bind_apply]
    cases w.hosts[h]? with
    | none => exact .inl trying
    | some host =>
      dsimp only
      split
      · trivial
      · refine Kept.bind (change_trying ?_ w trying) fun _ w trying => ?_
        · exact fun host undecided => ⟨undecided.unfinished, undecided.undecided⟩
        · exact paced_punctual.schedule _ (.expire ..) trivial w (.inl trying)
  have sets : Kept Punctual (fun _ _ => True) (Host.setup act h w) := by
    unfold Host.setup
    rw [get_bind_apply]
    cases w.hosts[h]? with
    | none => exact .inl trying
    | some host =>
      dsimp only
      cases host.script with
      | linkFault | reception =>
        exact registers fun host undecided => ⟨undecided.unfinished, undecided.undecided⟩
      | code c => exact .of_returns (refuses.returns _ c _ w)
  exact Kept.bind (.of_returns (returns_guarded h sets.returns)) fun _ _ punctual => punctual

theorem run_punctual (refuses : Refuses act) (fuel : Nat) :
    KeepsReturning Punctual (Simulation.run (Simulation.fire act) none fuel) := by
  have calls (c : κ) (cue : Cue) : KeepsReturning Punctual (act c cue) :=
    fun w _ => .of_returns (refuses.returns _ c cue w)
  have hears : Hears (Simulation.hear act) Punctual (fun _ _ => True) fun _ _ => True := by
    intro l mote msg _
    cases l with
    | host h => exact hearLine_punctual refuses h mote msg
    | code c => exact (calls c _).bind fun _ => Keeps.pure _
  have fires := paced_punctual.fire moves_punctual hears (expire_punctual refuses) fun c => calls c .due
  exact paced_punctual.run fires (by nofun) fuel

/-- A test that goes on when nothing is left to happen is failed, which writes the time as well. -/
theorem hostRun_writable (refuses : Refuses act) (trying : Trying w) (fuel : Nat) :
    Kept (fun w => Numeral.isWritable w.now = true) (fun _ _ => True) (Host.run act fuel 0 w) := by
  unfold Host.run
  refine (start_punctual refuses trying).bind fun _ w punctual => ?_
  refine (run_punctual refuses fuel w punctual).bind fun _ w punctual => ?_
  rw [get_bind_apply]
  rcases punctual with ⟨host, alone, unfinished, undecided⟩ | decided
  · have present := present_of_alone alone
    simp only [present, unfinished, Bool.not_false, ↓reduceIte]
    cases writable : Numeral.isWritable w.now with
    | true =>
      obtain ⟨o, failed⟩ := Host.failTest_apply present writable
        "simulation ended before the script finished"
      rw [bind_ok failed]
      exact writable
    | false =>
      have unpassed : host.log.verdict ≠ some .passed := by rw [undecided]; nofun
      obtain ⟨w', failed⟩ := Host.failTest_unwritable present writable unpassed
        "simulation ended before the script finished"
      rw [bind_error failed]
      trivial
  · obtain ⟨host, alone, finished⟩ := decided.finished
    simp only [present_of_alone alone, finished]
    exact decided.writable

/-- If a test returns, its time can be written: it has been, at the latest when the test was ended. -/
theorem runScript_punctual (refuses : Refuses act) (unhosted : w.hosts = #[]) (script : Script κ)
    (trace : Option Nat) (echo : Bool) (fuel : Nat) :
    Kept (fun w => Numeral.isWritable w.now = true) (fun _ _ => True)
      (runScript act fuel script trace echo w) := by
  have trying : Trying (Deadline.attaching script trace echo w) := ⟨_, rfl, rfl, rfl⟩
  have ran := hostRun_writable refuses trying fuel
  obtain ⟨returns, raises⟩ := Deadline.runScript_closes act fuel unhosted script trace echo
  cases ended : Host.run act fuel 0 (Deadline.attaching script trace echo w) with
  | ok u v =>
    rw [ended] at ran
    obtain ⟨o, closed⟩ := Deadline.closeTrace_apply 0 trace v
    rw [returns u v ended, bind_ok closed]
    exact ran
  | error i v =>
    obtain ⟨o, closed⟩ := Deadline.closeTrace_apply 0 trace v
    rw [raises i v ended, bind_ok closed]
    trivial

end Test

end MoteTrial.Session
