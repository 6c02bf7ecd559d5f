import MoteTrial.Proofs.Session.Operations

/-! # The test of a host

What is known of the test of a host, with a script of the users' own, at every moment of a session:
either it goes on, or has ended, with a log that agrees with the diary, or a failure of its script is on
its way out, which the host has dealt with unless the time cannot be written. The operations on
that host keep it so.
-/

namespace MoteTrial.Session

open SimM Simulation

variable {κ μ : Type}

/-- The verdict of a test, as far as the diary tells. -/
def Diary.verdict (d : Diary μ) (h : Nat) : Verdict := if h ∈ d.passes then .passed else .failed

/-- A test whose log agrees with the diary, and of whose script no call has raised. -/
structure Going (h : Nat) (host : Host κ) (w : World κ (Diary μ)) : Prop where
  present : w.hosts[h]? = some host
  script : ∃ c, host.script = .code c
  passed : host.log.verdict = some .passed ↔ h ∈ w.memory.passes
  sound : ∀ r ∈ w.memory.raised, r.host ≠ h

/-- A test that goes on, or has ended without a failure of its script; then it has a verdict. -/
structure Settling (h : Nat) (host : Host κ) (w : World κ (Diary μ)) : Prop
    extends Going h host w where
  decided : host.finished = true → host.log.verdict ≠ none

/-- A world in which the test of a host goes on. -/
def Open (h : Nat) (w : World κ (Diary μ)) : Prop := ∃ host, Settling h host w

/-- A host that has dealt with a failure of its script. -/
structure Dealt (f : Failure) (host : Host κ) (w : World κ (Diary μ)) : Prop where
  error : host.error = some f
  finished : host.finished = true
  decided : host.log.verdict ≠ none
  stopped : w.scheduler.stopped = true

/-- A failure goes through the calls: if calls of the script of a host have raised, it was with this
failure and just now, and `after` holds of the host, unless the time cannot be written. -/
structure Falls (after : Failure → Host κ → World κ (Diary μ) → Prop) (h : Nat) (f : Failure)
    (host : Host κ) (w : World κ (Diary μ)) : Prop where
  present : w.hosts[h]? = some host
  passed : Numeral.isWritable w.now = true →
    (host.log.verdict = some .passed ↔ h ∈ w.memory.passes)
  time : ∀ r ∈ w.memory.raised, r.host = h → r.time = w.now
  raised : ∀ r ∈ w.memory.raised, r.host = h → Numeral.isWritable w.now = true →
    r.failure = f ∧ after f host w

/-- What an interrupt leaves behind. -/
def Ends (after : Failure → Host κ → World κ (Diary μ) → Prop) (h : Nat) :
    Interrupt → World κ (Diary μ) → Prop
  | .failure f, w => ∃ host, Falls after h f host w
  | .exhausted, w => ∀ r ∈ w.memory.raised, r.host ≠ h

section Elementary

variable {h : Nat} {host : Host κ} {w w' : World κ (Diary μ)} {f : Failure}
  {after : Failure → Host κ → World κ (Diary μ) → Prop}

theorem Settling.of_same (settling : Settling h host w) (hosts : w'.hosts[h]? = w.hosts[h]?)
    (passes : w'.memory.passes = w.memory.passes) (raised : w'.memory.raised = w.memory.raised) :
    Settling h host w' := by
  refine ⟨⟨hosts.trans settling.present, settling.script, ?_, ?_⟩, settling.decided⟩
  · rw [passes]
    exact settling.passed
  · rw [raised]
    exact settling.sound

theorem Falls.of_same (falls : Falls after h f host w) (hosts : w'.hosts[h]? = w.hosts[h]?)
    (memory : w'.memory = w.memory) (now : w'.now = w.now)
    (kept : after f host w → after f host w') : Falls after h f host w' := by
  refine ⟨hosts.trans falls.present, ?_, ?_, ?_⟩
  · rw [now, memory]
    exact falls.passed
  · rw [now, memory]
    exact falls.time
  · rw [now, memory]
    intro r member made writable
    exact (falls.raised r member made writable).imp_right kept

/-- Where the time cannot be written, one failure is as good as another. -/
theorem Falls.unwritable (falls : Falls after h f host w) (long : Numeral.isWritable w.now = false)
    (g : Failure) : Falls after h g host w := by
  refine ⟨falls.present, falls.passed, falls.time, ?_⟩
  intro r member made writable
  rw [long] at writable
  cases writable

/-- As long as no call of the script has raised, any failure may come. -/
theorem Going.falls (going : Going h host w) (f : Failure) : Falls after h f host w where
  present := going.present
  passed _ := going.passed
  time r member made := (going.sound r member made).elim
  raised r member made := (going.sound r member made).elim

theorem Open.ends (opened : Open h w) (i : Interrupt) : Ends after h i w := by
  obtain ⟨host, settling⟩ := opened
  cases i with
  | failure f => exact ⟨host, settling.toGoing.falls f⟩
  | exhausted => exact settling.sound

theorem getElem?_modify_other {hosts : Array (Host κ)} {i : Nat} (other : i ≠ h)
    (g : Host κ → Host κ) : (hosts.modify i g)[h]? = hosts[h]? := by
  rw [Array.getElem?_modify, if_neg other]

theorem steady_open (h : Nat) :
    Steady (κ := κ) (Open (μ := μ) h) (Ends Dealt h) fun i => i ≠ h where
  seen := by
    rintro w ⟨host, settling⟩ o
    exact ⟨host, settling.of_same rfl rfl rfl⟩
  changed := by
    rintro w i other ⟨host, settling⟩ g -
    exact ⟨host, settling.of_same (getElem?_modify_other other g) rfl rfl⟩
  stopped := by
    rintro w ⟨host, settling⟩
    exact ⟨host, settling.of_same rfl rfl rfl⟩
  unwritable opened _ := opened.ends _

theorem steady_ends (h : Nat) (f : Failure) :
    Steady (κ := κ) (Ends (μ := μ) Dealt h (.failure f)) (Ends Dealt h) fun i => i ≠ h where
  seen := by
    rintro w ⟨host, falls⟩ o
    refine ⟨host, falls.of_same rfl rfl rfl ?_⟩
    intro dealt
    exact ⟨dealt.error, dealt.finished, dealt.decided, dealt.stopped⟩
  changed := by
    rintro w i other ⟨host, falls⟩ g -
    refine ⟨host, falls.of_same (getElem?_modify_other other g) rfl rfl ?_⟩
    intro dealt
    exact ⟨dealt.error, dealt.finished, dealt.decided, dealt.stopped⟩
  stopped := by
    rintro w ⟨host, falls⟩
    refine ⟨host, falls.of_same rfl rfl rfl ?_⟩
    intro dealt
    exact ⟨dealt.error, dealt.finished, dealt.decided, rfl⟩
  unwritable := by
    rintro w ⟨host, falls⟩ long
    exact ⟨host, falls.unwritable long _⟩

theorem stable_open (h : Nat) :
    Stable (κ := κ) (Open (μ := μ) h) (Ends Dealt h) (fun i => i ≠ h) fun _ _ => True where
  toSteady := steady_open h
  aside := by
    rintro w w' ⟨host, settling⟩ apart
    exact ⟨host, settling.of_same (by rw [apart.hosts]) (by rw [apart.memory])
      (by rw [apart.memory])⟩
  interrupted opened i := opened.ends i
  registered := by
    rintro w ⟨host, settling⟩ due _ event _
    exact ⟨host, settling.of_same rfl rfl rfl⟩
  taken := by
    rintro w ⟨host, settling⟩ - a s _
    exact ⟨host, settling.of_same rfl rfl rfl⟩
  counted := by
    rintro w ⟨host, settling⟩
    exact ⟨host, settling.of_same rfl rfl rfl⟩
  pending _ a _ := said_any a.event
  voiced _ _ _ _ _ := trivial
  rescripted := by
    rintro w i other ⟨host, settling⟩ g -
    exact ⟨host, settling.of_same (getElem?_modify_other other g) rfl rfl⟩
  bound := by
    rintro w i other ⟨host, settling⟩ mote msg endpoint - - -
    exact ⟨host, settling.of_same (getElem?_modify_other other _) rfl rfl⟩
  failing := steady_ends h

end Elementary

section Own

variable {h : Nat} {host host' : Host κ} {w w' : World κ (Diary μ)} {f : Failure}

/-- What a failure leaves behind when it comes out of a call of the script and is not dealt with yet. -/
abbrev Raises (h : Nat) : Interrupt → World κ (Diary μ) → Prop := Ends (fun _ _ _ => True) h

theorem Ends.raises {i : Interrupt} (ends : Ends Dealt h i w) : Raises h i w := by
  cases i with
  | failure f =>
    obtain ⟨host, falls⟩ := ends
    refine ⟨host, falls.present, falls.passed, falls.time, ?_⟩
    intro r member made writable
    exact (falls.raised r member made writable).imp_right fun _ => trivial
  | exhausted => exact ends

theorem Going.replaced (going : Going h host w) (script : host'.script = host.script)
    (passed : host'.log.verdict = some .passed ↔ host.log.verdict = some .passed) :
    Going h host' (w.setHost h host') where
  present := World.hosts_setHost going.present host'
  script := by
    rw [script]
    exact going.script
  passed := passed.trans going.passed
  sound := going.sound

/-- A change of the host that leaves its script and its log alone. -/
theorem own_change {g : Host κ → Host κ} (same : ∀ host, (g host).script = host.script ∧
      (g host).log = host.log ∧ (g host).finished = host.finished) :
    Keeps (Open h) (Ends Dealt h) (Host.change h g : SimM κ (Diary μ) Unit) := by
  rintro w ⟨host, settling⟩
  obtain ⟨script, log, finished⟩ := same host
  rw [Host.change_apply settling.present]
  refine ⟨g host, settling.toGoing.replaced script ?_, ?_⟩
  · rw [log]
  · rw [log, finished]
    exact settling.decided

/-- Failing the test settles it, also where the host is finished already. -/
theorem Going.failTest (going : Going h host w) (reason : String) :
    Kept (Settling h { host with log := host.log.failed reason }) (Ends Dealt h)
      (Host.failTest h reason w) := by
  have failed : Going h { host with log := host.log.failed reason }
      (w.setHost h { host with log := host.log.failed reason }) :=
    going.replaced rfl (TestLog.passed_failed_iff reason host.log)
  have settled (o : Observer) : Settling h { host with log := host.log.failed reason }
      ((w.setHost h { host with log := host.log.failed reason }).seenBy o) :=
    Settling.of_same ⟨failed, fun _ => TestLog.verdict_failed_ne_none reason host.log⟩ rfl rfl rfl
  change Kept _ _ (Host.onLog h (TestLog.fail w.now reason) w)
  obtain ⟨o, noted | ⟨_, unwritten⟩⟩ := TestLog.fail_cases w.now reason host.log w.observer
  · rw [Host.onLog_apply going.present noted]
    exact settled o
  · rw [Host.onLog_error going.present unwritten]
    exact Open.ends ⟨_, settled o⟩ (.failure .unwritableInteger)

theorem own_finish :
    Keeps (Open h) (Ends Dealt h) (Host.finish h : SimM κ (Diary μ) Unit) := by
  rintro w ⟨host, settling⟩
  have closed := Host.change_apply settling.present fun host => { host with finished := true }
  have going : Going h { host with finished := true } (w.setHost h { host with finished := true }) :=
    settling.toGoing.replaced rfl Iff.rfl
  unfold Host.finish
  rw [bind_ok closed, get_bind_apply]
  simp only [going.present]
  split
  · refine (going.failTest _).bind fun _ w failed => ?_
    exact (steady_open h).stop w ⟨_, failed⟩
  · rename_i undecided
    refine (steady_open h).stop _ ⟨_, going, ?_⟩
    intro _ verdict
    exact undecided (by rw [verdict]; rfl)

/-- A host of a script whose time cannot be written, after a failure. -/
structure Lost (h : Nat) (w : World κ (Diary μ)) : Prop where
  present : ∃ host, w.hosts[h]? = some host
  long : Numeral.isWritable w.now = false
  time : ∀ r ∈ w.memory.raised, r.host = h → r.time = w.now

theorem Lost.ends (lost : Lost h w) (f : Failure) : Ends Dealt h (.failure f) w := by
  obtain ⟨⟨host, present⟩, long, time⟩ := lost
  have never {P : Prop} (writable : Numeral.isWritable w.now = true) : P := by
    cases long.symm.trans writable
  exact ⟨host, present, never, time, fun r member made => never⟩

theorem steady_lost (h : Nat) :
    Steady (κ := κ) (Lost (μ := μ) h) (fun i w => Lost h w ∧ ∃ f, i = .failure f) fun _ => True where
  seen lost _ := ⟨lost.present, lost.long, lost.time⟩
  changed := by
    intro w i _ lost g _
    obtain ⟨host, present⟩ := lost.present
    refine ⟨⟨if i = h then g host else host, ?_⟩, lost.long, lost.time⟩
    change (w.hosts.modify i g)[h]? = _
    rw [Array.getElem?_modify, present]
    split
    · rfl
    · rfl
  stopped lost := ⟨lost.present, lost.long, lost.time⟩
  unwritable lost _ := ⟨lost, _, rfl⟩

theorem Falls.crashed {after : Failure → Host κ → World κ (Diary μ) → Prop}
    (falls : Falls after h f host w) (o : Observer) :
    Falls Dealt h f (host.crashed f) ((w.setHost h (host.crashed f)).stopped.seenBy o) := by
  refine ⟨World.hosts_setHost falls.present _, ?_, falls.time, ?_⟩
  · intro writable
    exact (TestLog.passed_failed_iff _ _).trans (falls.passed writable)
  · intro r member made writable
    exact ⟨(falls.raised r member made writable).1, rfl, rfl, TestLog.verdict_failed_ne_none _ _, rfl⟩

/-- The host deals with a failure of its script that comes out of a call. -/
theorem own_guarded {m : SimM κ (Diary μ) Bool} (part : Keeps (Open h) (Raises h) m) :
    Keeps (Open h) (Ends Dealt h) (Host.guarded h m) := by
  refine part.guarded (fun _ ends => ends) ?_
  rintro f w ⟨host, falls⟩
  cases writable : Numeral.isWritable w.now with
  | true =>
    obtain ⟨o, handled⟩ := Host.handleFailure_apply falls.present writable f
    rw [handled]
    exact ⟨_, falls.crashed o⟩
  | false =>
    have lost : Lost h w := ⟨⟨host, falls.present⟩, writable, falls.time⟩
    refine ((steady_lost h).handleFailure trivial f w lost).imp (fun _ lost => lost.ends f) ?_
    rintro i w ⟨lost, g, rfl⟩
    exact lost.ends g

end Own

end MoteTrial.Session
