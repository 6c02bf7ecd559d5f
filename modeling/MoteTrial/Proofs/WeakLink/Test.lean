import MoteTrial.Proofs.Network.Reference
import MoteTrial.Proofs.WeakLink.Network

/-! # The weak-link scenario from its start to its end

The link-fault script is tested on the weak-link network. The test passes when the client is done,
unless the deadline comes first.
-/

namespace MoteTrial

open SimM Simulation Scenario LogFile
open MoteTrial.Random (Jitter)

variable {κ μ : Type}

namespace WeakLink

/-- Whether the client is done before the deadline. -/
def InTime (timeout limit : Int) (j : Jitter) : Prop :=
  0 ≤ limit ∧ j.timerDue limit.toNat < timeout

instance (timeout limit : Int) (j : Jitter) : Decidable (InTime timeout limit j) :=
  inferInstanceAs (Decidable (_ ∧ _))

/-- When the test ends. -/
def endTime (timeout limit : Int) (j : Jitter) : Int :=
  if InTime timeout limit j then j.timerDue limit.toNat else timeout

section Course

variable {timeout limit : Int} {echo : Bool} {j : Jitter} {w : World κ μ}

/-- The time of the end can be written if the deadline can, or if the client, which sends a counter
every 10.5 seconds at least, is done at a time that can. -/
theorem isWritable_endTime (nonneg : 0 ≤ timeout) (j : Jitter)
    (short : Numeral.isWritable timeout = true ∨
      0 ≤ limit ∧ Numeral.isWritable (603999 + 10500 * limit) = true) :
    Numeral.isWritable (endTime timeout limit j) = true := by
  have first := j.le_timerDue limit.toNat
  have latest := j.timerDue_le limit.toNat
  unfold endTime
  split
  · rename_i inTime
    obtain ⟨some_counters, early⟩ := inTime
    rcases short with deadline | ⟨_, done⟩
    · exact isWritable_of_le (by omega) (Int.le_of_lt early) deadline
    · exact isWritable_of_le (by omega) (by omega) done
  · rename_i late
    rcases short with deadline | ⟨some_counters, done⟩
    · exact deadline
    · have overdue : timeout ≤ j.timerDue limit.toNat :=
        Int.not_lt.mp fun early => late ⟨some_counters, early⟩
      exact isWritable_of_le nonneg (by omega) done

/-- Whether the times before the deadline at which the timer of the client expires can be written. -/
def Timely (timeout limit : Int) (j : Jitter) : Prop :=
  ∀ n : Nat, (0 ≤ limit → (n : Int) ≤ limit) → j.timerDue n < timeout →
    Numeral.isWritable (j.timerDue n) = true

/-- Those times can be written if the time of the end can. -/
theorem timely_of_endTime (writable : Numeral.isWritable (endTime timeout limit j) = true) :
    Timely timeout limit j := by
  intro n within early
  have first := j.le_timerDue n
  refine isWritable_of_le (by omega) ?_ writable
  unfold endTime
  split
  · rename_i inTime
    have counters := within inTime.1
    have mono := j.timerDue_mono (show n ≤ limit.toNat by omega)
    omega
  · exact Int.le_of_lt early

/-- Where the deadline comes next, the client is not done before it. -/
theorem late_of_overdue {phase : Phase} (held : net timeout echo limit j phase w)
    (overdue : phase.Overdue timeout j) : ¬ InTime timeout limit j := by
  rintro ⟨nonneg, early⟩
  cases phase with
  | booting id others =>
    have first := j.le_timerDue limit.toNat
    obtain ⟨order, _⟩ := held
    change timeout < 1333 * id at overdue
    rcases order with ⟨rfl, _⟩ | ⟨rfl, _⟩ | ⟨rfl, _⟩ <;> omega
  | sending n =>
    have within := held.1.within nonneg
    have mono := j.timerDue_mono (show n ≤ limit.toNat by omega)
    change timeout ≤ j.timerDue n at overdue
    omega
  | silent => exact held

theorem net_steady : Steady (net timeout echo limit j : Phase → World κ μ → Prop) := by
  intro phase w w' held motes medium jitter
  cases phase with
  | booting id others => exact ⟨held.1, held.2.aside motes medium jitter⟩
  | sending n => exact ⟨held.1.aside motes medium jitter, held.2⟩
  | silent => exact held

/-- The course of the weak-link scenario. -/
theorem course (act : Behaviour κ μ) (echo : Bool) (timely : Timely timeout limit j) :
    Course act timeout j (bench timeout echo limit j) (net timeout echo limit j)
      (Passed timeout limit j) where
  steady := net_steady
  boots on due _ := starts act on due
  ticks {n w} on due early := by
    have shown : Numeral.isWritable w.now = true := by
      rw [due]
      exact timely n on.net.1.within early
    by_cases all : (n : Int) = limit
    · obtain ⟨w', ticked, passed, stopped, sets⟩ := finishes act on due shown all early
      exact ⟨w', ticked, .inr ⟨passed, stopped, sets⟩⟩
    · obtain ⟨w', ticked, further, sets⟩ := goes_on act on due shown all
      exact ⟨w', ticked, .inl ⟨_, .inl rfl, further, sets⟩⟩

/-- The weak-link network once it is put together. -/
theorem ready_net {w' : World κ μ} (ready : (Network.weakLink limit).Ready w w') :
    Net limit w.jitter 0 false w' ∧ w'.agenda = [1, 2, 3].map fun id => (1333 * id, .boot id) := by
  have table := ready.table
  have medium := ready.medium
  have relayRatio : (⟨Config.standard.relayRatio, Config.standard.relayRatio, false⟩ : Link) =
      Medium.usualLink := by
    simp only [Medium.usualLink, Config.standard]
  simp only [Network.weakLink, Network.wired, relayRatio] at medium
  obtain ⟨_, _, _, rest⟩ := ready.rest
  refine ⟨⟨?_, ?_, ?_, ?_, ?_, ?_, ?_, fun nonneg => nonneg⟩, ?_⟩
  · rw [table]
    rfl
  · rw [table]
    rfl
  · rw [table]
    rfl
  · rw [rest]
    rfl
  · rw [medium, Medium.link?_setLink_of_ne (by decide), Medium.link?_setLink_of_ne (by decide)]
    exact Medium.link?_setLink_self _ _ _ _
  · rw [medium, Medium.link?_setLink_of_ne (by decide)]
    exact Medium.link?_setLink_self _ _ _ _
  · rw [medium]
    exact Medium.link?_setLink_self _ _ _ _
  · rw [ready.agenda, table]
    rfl

/-- A test whose deadline expires fails. -/
theorem expired_verdict {phase : Phase} (held : net timeout echo limit j phase w) :
    (bench timeout echo limit j phase : Bench κ).host.expired.log.verdict = some .failed ∧
      (bench timeout echo limit j phase : Bench κ).host.expired.timedOut = true := by
  cases phase with
  | booting id others =>
    obtain ⟨order, _⟩ := held
    rcases order with ⟨rfl, _⟩ | ⟨rfl, _⟩ | ⟨rfl, _⟩
    · exact ⟨rfl, rfl⟩
    · exact ⟨rfl, rfl⟩
    · exact ⟨rfl, rfl⟩
  | sending n => exact held.2.bound.expired
  | silent => exact held.elim

/-- How a test ends whose client is done in time: what the server received has been logged, and the
link, which was cut and restored unless there were fewer than three counters, is as it was. -/
structure Passes (limit : Int) (j : Jitter) (host : Host κ) (w : World κ μ) : Prop where
  verdict : host.log.verdict = some .passed
  reason : host.log.reason = ""
  now : w.now = j.timerDue limit.toNat
  server : (w.motes.find? 1).bind Mote.firmware? = some (.server limit.toNat)
  lines : host.log.lines.toList =
    (List.range limit.toNat).map fun k => "received " ++ Numeral.decimal (k + 1 : Nat) ++ "\n"
  unchanged : limit < 3 → w.medium.mutations = #[]
  changed : 3 ≤ limit → ∃ early late, early < late ∧
    w.medium.mutations = #[⟨early, .deteriorate, 1, 3⟩, ⟨late, .improve, 1, 3⟩]
  link : w.medium.link? 1 3 = some Medium.usualLink

/-- How a test ends whose client is not done in time. -/
structure TimesOut (timeout : Int) (host : Host κ) (w : World κ μ) : Prop where
  verdict : host.log.verdict = some .failed
  timedOut : host.timedOut = true
  now : w.now = timeout

theorem Passed.passes {host : Host κ} (passed : Passed timeout limit j w)
    (present : w.hosts[0]? = some host) : Passes limit j host w := by
  obtain ⟨found, there, _, verdict, reason, lines⟩ := passed.host
  obtain rfl : found = host := Option.some.inj (there.symm.trans present)
  have nonneg := passed.nonneg
  have mutations := passed.mutations
  rw [changes_eq] at mutations
  refine ⟨verdict, reason, passed.now, passed.server, ?_, fun few => ?_, fun many => ?_, passed.direct⟩
  · rw [lines]
    rfl
  · rwa [if_pos (by omega)] at mutations
  · rw [if_neg (by omega), if_neg (by omega)] at mutations
    refine ⟨_, _, ?_, mutations⟩
    have mono := j.timerDue_mono (show (limit / 3).toNat ≤ (2 * (limit / 3)).toNat by omega)
    omega

end Course

/-- The weak-link scenario, tested by the link-fault script. -/
def test (act : Behaviour κ μ) (limit timeout : Int) (echo : Bool) (fuel : Nat) : SimM κ μ Nat :=
  tested act (buildWeakLink (some limit)) .linkFault timeout echo fuel

section Test

variable {timeout limit : Int} {echo : Bool} {w : World κ μ}

/-- How the test of a fresh simulation stands after any number of events. -/
theorem test_stands (act : Behaviour κ μ) (echo : Bool) (nonneg : 0 ≤ timeout) (fresh : w.Fresh)
    (timely : Timely timeout limit w.jitter) :
    ∃ enough, ∀ fuel, Outcome timeout w.jitter (bench timeout echo limit w.jitter)
      (net timeout echo limit w.jitter) (Passed timeout limit w.jitter) (fuel < enough)
      (test act limit timeout echo fuel w) := by
  have readies (w' : World κ μ) (ready : (Network.weakLink limit).Ready w w') :
      net timeout echo limit w.jitter (.booting 1 [2, 3]) w' ∧
        w'.agenda = [1, 2, 3].map fun id => (1333 * id, .boot id) := by
    obtain ⟨network, boots⟩ := ready_net ready
    exact ⟨⟨.inl ⟨rfl, rfl⟩, network⟩, boots⟩
  have closed (w' : World κ μ) (passed : Passed timeout limit w.jitter w') :
      ∃ host, w'.hosts[0]? = some host ∧ host.finished = true :=
    let ⟨host, present, finished, _⟩ := passed.host
    ⟨host, present, finished⟩
  have built := Network.buildWeakLink_eq fresh.standard limit
  exact (course act echo timely).scenario_stands .linkFault echo nonneg fresh built rfl readies closed

/-- The test of a fresh simulation ends with a verdict that depends on whether the client is done in
time. -/
theorem test_ends (act : Behaviour κ μ) (echo : Bool) (nonneg : 0 ≤ timeout) (fresh : w.Fresh)
    (writable : Numeral.isWritable (endTime timeout limit w.jitter) = true) :
    ∃ enough, ∀ fuel, enough ≤ fuel → ∃ w' host, test act limit timeout echo fuel w = .ok 0 w' ∧
      w'.hosts[0]? = some host ∧
      if InTime timeout limit w.jitter then Passes limit w.jitter host w'
      else TimesOut timeout host w' := by
  obtain ⟨enough, stands⟩ := test_stands act echo nonneg fresh (timely_of_endTime writable)
  refine ⟨enough, ?_⟩
  intro fuel more
  have ended := stands fuel
  cases ran : test act limit timeout echo fuel w with
  | error i w' =>
    rw [ran] at ended
    cases i with
    | exhausted => exact absurd ended.2 (Nat.not_lt.mpr more)
    | failure f =>
      obtain ⟨phase, w'', on, overdue⟩ := ended.overdue
      unfold endTime at writable
      rw [if_neg (late_of_overdue on.net overdue), ended.long] at writable
      cases writable
  | ok h w' =>
    rw [ran] at ended
    obtain ⟨rfl, ⟨phase, expired⟩ | passed⟩ := ended
    · obtain ⟨verdict, timedOut⟩ := expired_verdict expired.net
      refine ⟨w', _, rfl, expired.describes.host, ?_⟩
      rw [if_neg (late_of_overdue expired.net expired.overdue)]
      exact ⟨verdict, timedOut, expired.describes.now⟩
    · obtain ⟨host, present, _⟩ := passed.host
      refine ⟨w', host, rfl, present, ?_⟩
      rw [if_pos ⟨passed.nonneg, passed.early⟩]
      exact passed.passes present

/-- The weak-link scenario does not fail if the time of its end, which it writes, has no more than 4300
digits. Whatever the seed, the draws and the delays, it passes if the client is done before the deadline,
and times out otherwise. -/
theorem scenario_ends (act : Behaviour κ μ) (echo : Bool) (observer : Observer) (memory : μ)
    {seed limit timeout : Int} (valid : 0 ≤ seed) (nonneg : 0 ≤ timeout) (draws : Random.Draws)
    (jitter : Jitter) (writable : Numeral.isWritable (endTime timeout limit jitter) = true) :
    ∃ fresh, World.ofSeed Config.standard (some seed) observer memory = .ok fresh ∧
      ∃ enough, ∀ fuel, enough ≤ fuel → ∃ w' host,
        test act limit timeout echo fuel (fresh.chancing draws jitter) = .ok 0 w' ∧
        w'.hosts[0]? = some host ∧
        (if InTime timeout limit jitter then Passes limit jitter host w'
          else TimesOut timeout host w') ∧
        (0 ≤ limit → 603999 + 10500 * limit < timeout → host.log.verdict = some .passed) := by
  obtain ⟨made, same, fresh⟩ := World.fresh_ofSeed valid observer memory
  obtain ⟨enough, ends⟩ := test_ends act echo nonneg (fresh.chancing draws jitter) writable
  refine ⟨made, same, enough, ?_⟩
  intro fuel more
  obtain ⟨w', host, ran, present, result⟩ := ends fuel more
  refine ⟨w', host, ran, present, result, ?_⟩
  intro few late
  have latest := jitter.timerDue_le limit.toNat
  have inTime : InTime timeout limit jitter := ⟨few, by omega⟩
  rw [show (made.chancing draws jitter).jitter = jitter from rfl, if_pos inTime] at result
  exact result.verdict

/-- Five counters, sent without delays before a deadline of 700 seconds. -/
theorem scenario_ends_five :
    (0 : Int) ≤ 1 ∧ (0 : Int) ≤ 700000 ∧
      Numeral.isWritable (endTime 700000 5 (.tape (fun _ => 0) 0)) = true ∧
      ∃ fresh, World.ofSeed Config.standard (some 1) {} () = .ok fresh ∧
        ∃ enough, ∀ fuel, enough ≤ fuel → ∃ w' host,
          test (fun (_ : Unit) _ => pure false) 5 700000 false fuel
            (fresh.chancing (.tape (fun _ => 0) 0) (.tape (fun _ => 0) 0)) = .ok 0 w' ∧
          w'.hosts[0]? = some host ∧
          (if InTime 700000 5 (.tape (fun _ => 0) 0) then Passes 5 (.tape (fun _ => 0) 0) host w'
            else TimesOut 700000 host w') ∧
          ((0 : Int) ≤ 5 → 603999 + 10500 * (5 : Int) < 700000 → host.log.verdict = some .passed) := by
  have writable : Numeral.isWritable (endTime 700000 5 (.tape (fun _ => 0) 0)) = true :=
    isWritable_endTime (by decide) _ (.inl (by decide +kernel))
  exact ⟨by decide, by decide, writable,
    scenario_ends _ false {} () (by decide) (by decide) _ _ writable⟩

/-- The greatest time that can be written comes before a deadline of 4301 digits. -/
theorem timely_overlong (limit : Int) (j : Jitter) :
    Timely ((10 ^ Numeral.digitLimit : Nat) : Int) limit j := by
  intro n _ early
  have first := j.le_timerDue n
  rw [Numeral.isWritable_iff]
  omega

/-- A client without a limit is never done, and a deadline of 4301 digits makes the scenario fail. -/
theorem overlong_deadline_fails :
    ∃ fresh, World.ofSeed Config.standard (some 1) {} () = .ok fresh ∧
      ∃ enough, ∀ fuel, enough ≤ fuel → ∃ w',
        test (fun (_ : Unit) _ => pure false) (-1) ((10 ^ Numeral.digitLimit : Nat) : Int) false fuel
          fresh = .error (.failure .unwritableInteger) w' := by
  obtain ⟨made, same, fresh⟩ : ∃ made : World Unit Unit,
      World.ofSeed Config.standard (some 1) {} () = .ok made ∧ made.Fresh :=
    World.fresh_ofSeed (by decide) {} ()
  obtain ⟨enough, stands⟩ := test_stands (fun (_ : Unit) _ => pure false) false (Int.natCast_nonneg _)
    fresh (timely_overlong (-1) made.jitter)
  refine ⟨made, same, enough, ?_⟩
  intro fuel more
  have ended := stands fuel
  generalize test _ _ _ _ fuel made = result at ended ⊢
  match result, ended with
  | .ok h w', ⟨_, .inl ⟨_, expired⟩⟩ => cases expired.writable.symm.trans isWritable_overlong
  | .ok h w', ⟨_, .inr passed⟩ => exact absurd passed.nonneg (by decide)
  | .error (.failure f) w', failed => exact ⟨w', by rw [failed.failure]⟩
  | .error .exhausted w', unfinished => exact absurd unfinished.2 (Nat.not_lt.mpr more)

end Test

end WeakLink

end MoteTrial
