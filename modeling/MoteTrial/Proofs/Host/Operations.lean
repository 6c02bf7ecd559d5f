import MoteTrial.Proofs.Execution
import MoteTrial.Proofs.Host.Answers
import MoteTrial.Proofs.RadioLink
import MoteTrial.Proofs.Text.Writable

/-! # What the operations of a host do to the world

Each operation on a host, its log or a link is an equation: the host or the link changes, and all else
stays as it was but for the console.
-/

namespace MoteTrial

open SimM Simulation

variable {κ μ : Type}

/-- The world with another host in place of one. -/
def World.setHost (h : Nat) (host : Host κ) (w : World κ μ) : World κ μ :=
  { w with hosts := w.hosts.setIfInBounds h host }

/-- The world before another observer. -/
def World.seenBy (o : Observer) (w : World κ μ) : World κ μ := { w with observer := o }

/-- The world once a link has been changed. -/
def World.changeLink (kind : Change) (a b : Int) (w : World κ μ) : World κ μ :=
  { w with medium := w.medium.changed w.now kind a b }

/-- The world once it has been stopped. -/
def World.stopped (w : World κ μ) : World κ μ := { w with scheduler := w.scheduler.stop }

section Log

variable {w : World κ μ} {h : Nat} {host : Host κ}

theorem modify_host (present : w.hosts[h]? = some host) (f : Host κ → Host κ) :
    w.hosts.modify h f = w.hosts.setIfInBounds h (f host) := by
  apply Array.ext_getElem?
  intro i
  rw [Array.getElem?_modify, Array.getElem?_setIfInBounds]
  by_cases same : h = i
  · subst same
    have bound := (Array.getElem?_eq_some_iff.mp present).1
    simp only [↓reduceIte, present, Option.map_some, bound]
  · simp only [same, ↓reduceIte]

theorem World.hosts_setHost (present : w.hosts[h]? = some host) (host' : Host κ) :
    (w.setHost h host').hosts[h]? = some host' := by
  have bound := (Array.getElem?_eq_some_iff.mp present).1
  simp only [setHost, Array.getElem?_setIfInBounds, ↓reduceIte, bound]

theorem World.setHost_self (present : w.hosts[h]? = some host) : w.setHost h host = w := by
  have same : w.hosts.setIfInBounds h host = w.hosts := by
    apply Array.ext_getElem?
    intro i
    rw [Array.getElem?_setIfInBounds]
    split
    · rename_i here
      subst here
      rw [if_pos (Array.getElem?_eq_some_iff.mp present).1, present]
    · rfl
  simp only [setHost, same]

theorem World.setHost_setHost (w : World κ μ) (h : Nat) (a b : Host κ) :
    (w.setHost h a).setHost h b = w.setHost h b := by
  simp only [setHost, Array.setIfInBounds_setIfInBounds]

@[simp] theorem World.now_seenBy (w : World κ μ) (o : Observer) : (w.seenBy o).now = w.now := rfl

theorem World.seenBy_seenBy (w : World κ μ) (a b : Observer) :
    (w.seenBy a).seenBy b = w.seenBy b := rfl

theorem World.setHost_seenBy (w : World κ μ) (o : Observer) (h : Nat) (host : Host κ) :
    (w.seenBy o).setHost h host = (w.setHost h host).seenBy o := rfl

theorem World.stopped_seenBy (w : World κ μ) (o : Observer) :
    (w.seenBy o).stopped = w.stopped.seenBy o := rfl

theorem stop_apply (w : World κ μ) : Simulation.stop w = .ok () w.stopped := rfl

theorem Host.change_apply (present : w.hosts[h]? = some host) (f : Host κ → Host κ) :
    Host.change h f w = .ok () (w.setHost h (f host)) := by
  simp only [Host.change, modify_apply, World.setHost, modify_host present]

theorem Host.change_absent (absent : w.hosts[h]? = none) (f : Host κ → Host κ) :
    Host.change h f w = .ok () w := by
  have same : w.hosts.modify h f = w.hosts := by
    apply Array.ext_getElem?
    intro i
    rw [Array.getElem?_modify]
    split
    · rename_i here
      rw [← here, absent]
      rfl
    · rfl
  simp only [Host.change, modify_apply, same]

theorem Host.onLog_absent (absent : w.hosts[h]? = none) (m : LogM Unit) :
    Host.onLog h m w = .ok () w := by
  simp only [Host.onLog, absent]

theorem Host.onLog_apply (present : w.hosts[h]? = some host) {m : LogM Unit} {log : TestLog}
    {o : Observer} (run : m (host.log, w.observer) = .ok () (log, o)) :
    Host.onLog h m w = .ok () ((w.setHost h { host with log }).seenBy o) := by
  simp only [Host.onLog, present, run, modify_host present, World.setHost, World.seenBy]

theorem Host.onLog_error (present : w.hosts[h]? = some host) {m : LogM Unit} {log : TestLog}
    {o : Observer} {f : Failure} (run : m (host.log, w.observer) = .error f (log, o)) :
    Host.onLog h m w = .error (.failure f) ((w.setHost h { host with log }).seenBy o) := by
  simp only [Host.onLog, present, run, modify_host present, World.setHost, World.seenBy]

theorem TestLog.writeInt_apply {n : Int} (writable : Numeral.isWritable n = true)
    (s : TestLog × Observer) : TestLog.writeInt n s = .ok (Numeral.decimal n) s := by
  unfold TestLog.writeInt
  simp only [MoteTrial.writeInt_apply writable]
  rfl

theorem TestLog.pass_apply {now : Int} (writable : Numeral.isWritable now = true) (log : TestLog)
    (o : Observer) : ∃ o', TestLog.pass now (log, o) = .ok () (log.succeeded, o') := by
  unfold TestLog.pass
  by_cases passed : log.verdict = some .passed
  · refine ⟨o, ?_⟩
    simp only [get_bind_apply, passed, ne_eq, not_true_eq_false, ↓reduceIte]
    rfl
  · refine ⟨o.print ("✅ TEST OK at " ++ Numeral.decimal now ++ "ms\n"), ?_⟩
    simp only [get_bind_apply, passed, ne_eq, not_false_eq_true, ↓reduceIte]
    rw [bind_ok (TestLog.writeInt_apply writable _)]
    rfl

theorem TestLog.fail_apply {now : Int} (writable : Numeral.isWritable now = true) (reason : String)
    (log : TestLog) (o : Observer) :
    ∃ o', TestLog.fail now reason (log, o) = .ok () (log.failed reason, o') := by
  unfold TestLog.fail TestLog.failed
  by_cases passed : log.verdict = some .passed
  · refine ⟨o, ?_⟩
    simp only [get_bind_apply, passed, ↓reduceIte]
    rfl
  · refine ⟨o.print ("❌ TEST FAILED at " ++ Numeral.decimal now ++ "ms: " ++ reason ++ "\n"), ?_⟩
    simp only [get_bind_apply, passed, ↓reduceIte, modify_bind_apply]
    exact bind_ok (TestLog.writeInt_apply writable _) _

theorem TestLog.writeInt_unwritable {n : Int} (long : Numeral.isWritable n = false)
    (s : TestLog × Observer) : TestLog.writeInt n s = .error .unwritableInteger s := by
  unfold TestLog.writeInt
  simp only [MoteTrial.writeInt_unwritable long]
  rfl

theorem TestLog.pass_unwritable {now : Int} (long : Numeral.isWritable now = false) {log : TestLog}
    (unpassed : log.verdict ≠ some .passed) (o : Observer) :
    TestLog.pass now (log, o) = .error .unwritableInteger (log, o) := by
  unfold TestLog.pass
  simp only [get_bind_apply, ne_eq, unpassed, not_false_eq_true, ↓reduceIte]
  exact bind_error (TestLog.writeInt_unwritable long _) _

/-- The verdict is there before the time turns out not to be writable. -/
theorem TestLog.fail_unwritable {now : Int} (long : Numeral.isWritable now = false) {log : TestLog}
    (unpassed : log.verdict ≠ some .passed) (reason : String) (o : Observer) :
    TestLog.fail now reason (log, o) = .error .unwritableInteger (log.failed reason, o) := by
  unfold TestLog.fail TestLog.failed
  simp only [get_bind_apply, unpassed, ↓reduceIte, modify_bind_apply]
  exact bind_error (TestLog.writeInt_unwritable long _) _

/-- Passing a test fails only where the time cannot be written, and changes nothing then. -/
theorem TestLog.pass_cases (now : Int) (log : TestLog) (o : Observer) :
    (∃ o', TestLog.pass now (log, o) = .ok () (log.succeeded, o')) ∨
      Numeral.isWritable now = false ∧
        TestLog.pass now (log, o) = .error .unwritableInteger (log, o) := by
  cases writable : Numeral.isWritable now with
  | true => exact .inl (TestLog.pass_apply writable log o)
  | false =>
    by_cases passed : log.verdict = some .passed
    · refine .inl ⟨o, ?_⟩
      unfold TestLog.pass
      simp only [get_bind_apply, passed, ne_eq, not_true_eq_false, ↓reduceIte]
      rfl
    · exact .inr ⟨rfl, TestLog.pass_unwritable writable passed o⟩

/-- Failing a test fails only where the time cannot be written, and the log has changed by then. -/
theorem TestLog.fail_cases (now : Int) (reason : String) (log : TestLog) (o : Observer) :
    ∃ o', TestLog.fail now reason (log, o) = .ok () (log.failed reason, o') ∨
      Numeral.isWritable now = false ∧
        TestLog.fail now reason (log, o) = .error .unwritableInteger (log.failed reason, o') := by
  cases writable : Numeral.isWritable now with
  | true =>
    obtain ⟨o', failed⟩ := TestLog.fail_apply writable reason log o
    exact ⟨o', .inl failed⟩
  | false =>
    refine ⟨o, ?_⟩
    by_cases passed : log.verdict = some .passed
    · refine .inl ?_
      unfold TestLog.fail TestLog.failed
      simp only [get_bind_apply, passed, ↓reduceIte]
      rfl
    · exact .inr ⟨rfl, TestLog.fail_unwritable writable passed reason o⟩

theorem TestLog.write_apply (now : Int) (text : String) (mote : Int) (log : TestLog)
    (o : Observer) :
    ∃ o', TestLog.write now text mote (log, o) =
      .ok () (log.added text, o') := ⟨_, rfl⟩

theorem now_bind_apply {α : Type} (f : Int → SimM κ μ α) (w : World κ μ) :
    (now >>= f) w = f w.now w := rfl

theorem Host.pass_apply (present : w.hosts[h]? = some host)
    (writable : Numeral.isWritable w.now = true) :
    ∃ o, Host.pass h w =
      .ok () ((w.setHost h { host with log := host.log.succeeded }).seenBy o) := by
  obtain ⟨o, run⟩ := TestLog.pass_apply writable host.log w.observer
  exact ⟨o, (now_bind_apply _ w).trans (Host.onLog_apply present run)⟩

theorem Host.failTest_apply (present : w.hosts[h]? = some host)
    (writable : Numeral.isWritable w.now = true) (reason : String) :
    ∃ o, Host.failTest h reason w =
      .ok () ((w.setHost h { host with log := host.log.failed reason }).seenBy o) := by
  obtain ⟨o, run⟩ := TestLog.fail_apply writable reason host.log w.observer
  exact ⟨o, (now_bind_apply _ w).trans (Host.onLog_apply present run)⟩

theorem Host.failTest_unwritable (present : w.hosts[h]? = some host)
    (long : Numeral.isWritable w.now = false) (unpassed : host.log.verdict ≠ some .passed)
    (reason : String) : ∃ w', Host.failTest h reason w = .error (.failure .unwritableInteger) w' := by
  have run := TestLog.fail_unwritable long unpassed reason w.observer
  exact ⟨_, (now_bind_apply _ w).trans (Host.onLog_error present run)⟩

theorem Host.write_apply (present : w.hosts[h]? = some host) (text : String) (mote : Int) :
    ∃ o, Host.write h text mote w =
      .ok () ((w.setHost h { host with log := host.log.added text }).seenBy o) := by
  obtain ⟨o, run⟩ := TestLog.write_apply w.now text mote host.log w.observer
  exact ⟨o, (now_bind_apply _ w).trans (Host.onLog_apply present run)⟩

theorem Host.finish_apply (present : w.hosts[h]? = some host)
    (writable : Numeral.isWritable w.now = true) :
    ∃ o, Host.finish h w = .ok () ((w.setHost h host.closed).stopped.seenBy o) := by
  have first := Host.change_apply present fun host => { host with finished := true }
  have there := World.hosts_setHost present { host with finished := true }
  unfold Host.finish
  rw [bind_ok first, get_bind_apply]
  simp only [World.hosts_setHost present]
  cases verdict : host.log.verdict with
  | none =>
    obtain ⟨o, failed⟩ := Host.failTest_apply there writable
      (if host.timedOut then "timeout" else "script ended without test_ok")
    refine ⟨o, ?_⟩
    simp only [Option.isNone_none, ↓reduceIte]
    rw [bind_ok failed, World.setHost_setHost]
    simp only [Simulation.stop, modify_apply, Host.closed, verdict, Option.isNone_none, ↓reduceIte]
    rfl
  | some v =>
    refine ⟨w.observer, ?_⟩
    simp only [Option.isNone_some, Bool.false_eq_true, ↓reduceIte, Simulation.stop, modify_apply,
      Host.closed, verdict]
    rfl

theorem print_bind_apply {α : Type} (text : String) (f : Unit → SimM κ μ α) (w : World κ μ) :
    (print text >>= f) w = f () (w.seenBy (w.observer.print text)) := rfl

theorem Host.handleFailure_apply (present : w.hosts[h]? = some host)
    (writable : Numeral.isWritable w.now = true) (f : Failure) :
    ∃ o, Host.handleFailure h f w =
      .ok () ((w.setHost h (host.crashed f)).stopped.seenBy o) := by
  let broken : Host κ := { host with error := some f }
  have noted := Host.change_apply present fun host => { host with error := some f }
  have there := World.hosts_setHost present broken
  unfold Host.handleFailure
  rw [bind_ok noted, get_bind_apply]
  simp only [World.hosts_setHost present, print_bind_apply]
  generalize Observer.print _ _ = told
  obtain ⟨o, failed⟩ := Host.failTest_apply (w := (w.setHost h broken).seenBy told) there writable
    (f.name ++ ": " ++ f.message)
  have ended := Host.change_apply
    (w := ((w.setHost h broken).seenBy told |>.setHost h
      { broken with log := broken.log.failed (f.name ++ ": " ++ f.message) }).seenBy o)
    (World.hosts_setHost there _) fun host => { host with finished := true }
  refine ⟨o, ?_⟩
  rw [bind_ok failed, bind_ok ended]
  simp only [stop_apply, World.setHost_seenBy, World.seenBy_seenBy, World.stopped_seenBy,
    World.setHost_setHost]
  rfl

end Log

section Link

variable {w : World κ μ} {kind : Change} {a b : Int}

/-- A change that is refused changes nothing. -/
theorem changeLink_refused {f : Failure}
    (refused : w.medium.change w.config w.now kind a b = .error f) :
    changeLink kind a b w = .error (.failure f.settled) w := by
  have failed : (do return ((), ← w.medium.change w.config w.now kind a b) : Except Failure _) =
      .error f := by
    rw [refused]
    rfl
  exact bind_error (onMedium_error (f := fun config m => return ((), ← m.change config w.now kind a b))
    failed) _

/-- What is left of a change once it is made: it is told on the console, and recorded. -/
theorem changeLink_eq {m : Medium} (made : w.medium.change w.config w.now kind a b = .ok m) :
    changeLink kind a b w =
      (do
        let time ← ofExcept (writeInt w.now)
        let first ← ofExcept (writeInt a)
        let second ← ofExcept (writeInt b)
        print ("[radio] " ++ String.ofList (List.replicate (10 - time.length) ' ') ++ time ++ "ms " ++
          kind.name ++ " link " ++ first ++ "<->" ++ second ++ "\n")
        match (← get).radioTrace with
        | none => return
        | some id => observe (·.recordLink id ⟨w.now, kind.name, a, b⟩) : SimM κ μ Unit)
        { w with medium := m } := by
  have done : (do return ((), ← w.medium.change w.config w.now kind a b) : Except Failure _) =
      .ok ((), m) := by
    rw [made]
    rfl
  exact bind_ok (onMedium_ok (f := fun config m => return ((), ← m.change config w.now kind a b))
    done) _

/-- A change that can be told is, whether or not it is recorded. -/
theorem changeLink_told {m : Medium} (made : w.medium.change w.config w.now kind a b = .ok m)
    (told : (Numeral.isWritable w.now && (Numeral.isWritable a && Numeral.isWritable b)) = true) :
    ∃ o, changeLink kind a b w = .ok () { w with medium := m, observer := o } := by
  simp only [Bool.and_eq_true] at told
  rw [changeLink_eq made]
  simp only [writeInt_apply told.1, writeInt_apply told.2.1, writeInt_apply told.2.2,
    ofExcept_ok_bind_apply]
  unfold SimM.print SimM.observe
  rw [modify_bind_apply, get_bind_apply]
  simp only
  cases w.radioTrace with
  | none => exact ⟨_, rfl⟩
  | some id => exact ⟨_, rfl⟩

/-- A change that cannot be told is made all the same. -/
theorem changeLink_untold {m : Medium} (made : w.medium.change w.config w.now kind a b = .ok m)
    (untold : (Numeral.isWritable w.now && (Numeral.isWritable a && Numeral.isWritable b)) = false) :
    changeLink kind a b w = .error (.failure .unwritableInteger) { w with medium := m } := by
  rw [changeLink_eq made]
  cases time : Numeral.isWritable w.now with
  | false => simp only [writeInt_unwritable time, ofExcept_error_bind_apply, settled_unwritable]
  | true =>
    cases first : Numeral.isWritable a with
    | false =>
      simp only [writeInt_apply time, writeInt_unwritable first, ofExcept_ok_bind_apply,
        ofExcept_error_bind_apply, settled_unwritable]
    | true =>
      have second : Numeral.isWritable b = false := by simpa [time, first] using untold
      simp only [writeInt_apply time, writeInt_apply first, writeInt_unwritable second,
        ofExcept_ok_bind_apply, ofExcept_error_bind_apply, settled_unwritable]

theorem Medium.change_standard (standard : w.config = Config.standard) (kind : Change) (a b : Int) :
    w.medium.change w.config w.now kind a b = .ok (w.medium.changed w.now kind a b) := by
  rw [standard, Medium.change_apply]

theorem changeLink_apply (standard : w.config = Config.standard)
    (writable : Numeral.isWritable w.now = true) (kind : Change) {a b : Int}
    (first : Numeral.isWritable a = true) (second : Numeral.isWritable b = true) :
    ∃ o, changeLink kind a b w = .ok () ((w.changeLink kind a b).seenBy o) :=
  changeLink_told (Medium.change_standard standard kind a b) (by rw [writable, first, second]; rfl)

/-- The change itself is made before the line that tells of it turns out not to be writable. -/
theorem changeLink_unwritable (standard : w.config = Config.standard) (kind : Change) {a b : Int}
    (long : ¬ (Numeral.isWritable a && Numeral.isWritable b)) :
    changeLink kind a b w = .error (.failure .unwritableInteger) (w.changeLink kind a b) :=
  changeLink_untold (Medium.change_standard standard kind a b)
    (by rw [Bool.eq_false_iff.mpr long, Bool.and_false])

end Link

end MoteTrial
