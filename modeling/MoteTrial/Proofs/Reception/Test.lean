import MoteTrial.Proofs.Network.Reference
import MoteTrial.Proofs.Reception.Network

/-! # The reception scenario from its start to its end

The reception script is tested on the reception network. Its account is right throughout, and at the
deadline the test passes if the counters that arrived are those up to some number.
-/

namespace MoteTrial

open SimM Simulation Scenario
open MoteTrial.Random (Draws Jitter)

variable {κ μ : Type}

namespace ReceptionLoss

section Course

variable {timeout limit : Int} {echo : Bool} {j : Jitter} {ratio : Binary64} {d : Draws}
  {w : World κ μ}

/-- Whether a counter, numbered from one, is sent before the deadline. -/
def IsSent (timeout limit : Int) (j : Jitter) (n : Nat) : Prop :=
  1 ≤ n ∧ j.timerDue (n - 1) < timeout ∧ (0 ≤ limit → (n : Int) ≤ limit)

/-- Whether the counters that are sent before the deadline and arrive can be written. -/
def Legible (timeout limit : Int) (j : Jitter) (arrives : Nat → Bool) : Prop :=
  ∀ n, IsSent timeout limit j n → arrives (n - 1) = true → Numeral.isWritable n = true

/-- A client sends fewer counters than milliseconds pass. -/
theorem legible_of_isWritable (limit : Int) (j : Jitter) (arrives : Nat → Bool)
    (writable : Numeral.isWritable timeout = true) : Legible timeout limit j arrives := by
  rintro n ⟨positive, early, _⟩ _
  have := j.le_timerDue (n - 1)
  exact isWritable_of_le (by omega) (by omega) writable

theorem net_steady : Steady (net timeout echo limit j ratio d : Phase → World κ μ → Prop) := by
  intro phase w w' held motes medium jitter
  cases phase with
  | booting id others => exact ⟨held.1, held.2.aside motes medium jitter⟩
  | sending n => exact ⟨held.1.aside motes medium jitter, held.2⟩
  | silent =>
    obtain ⟨done, counts⟩ := held
    exact ⟨⟨motes ▸ done.server, motes ▸ done.client, done.nonneg, done.early⟩, counts⟩

/-- The next counter is sent if its time comes before the deadline and not all have been sent. -/
theorem Net.isSent {n : Nat} (net : Net timeout limit j ratio d n w) (early : j.timerDue n < timeout)
    (more : (n : Int) ≠ limit) : IsSent timeout limit j (n + 1) := by
  refine ⟨Nat.succ_pos n, early, fun nonneg => ?_⟩
  have within := net.within nonneg
  omega

/-- The course of the reception scenario. -/
theorem course (act : Behaviour κ μ) (echo : Bool) (legible : Legible timeout limit j (arrives ratio d)) :
    Course act timeout j (bench timeout echo limit j (arrives ratio d))
      (net timeout echo limit j ratio d) fun _ => False where
  steady := net_steady
  boots on due _ := starts act on due
  ticks {n w} on due early := by
    by_cases all : (n : Int) = limit
    · obtain ⟨w', ticked, further, sets⟩ := finishes act on due all
      exact ⟨w', ticked, .inl ⟨_, .inr rfl, further, sets⟩⟩
    · have shown := legible (n + 1) (on.net.1.isSent early all)
      obtain ⟨w', ticked, further, sets⟩ := goes_on act on due all early shown
      exact ⟨w', ticked, .inl ⟨_, .inl rfl, further, sets⟩⟩

/-- The reception network once it is put together. -/
theorem ready_net {timeout : Int} {amount : Option Amount} {declares : Declares amount ratio}
    {w' : World κ μ} (ready : (Network.reception limit declares).Ready w w') :
    Net timeout limit w.jitter ratio w.medium.draws 0 w' ∧
      w'.agenda = [1, 3].map fun id => (1333 * id, .boot id) := by
  have table := ready.table
  have medium := ready.medium
  simp only [Network.reception, Network.wired] at medium
  obtain ⟨_, _, _, rest⟩ := ready.rest
  refine ⟨⟨?_, ?_, ?_, ?_, ?_, fun nonneg => nonneg, ?_⟩, ?_⟩
  · rw [table]
    rfl
  · rw [table]
    rfl
  · rw [rest]
    rfl
  · rw [medium]
    exact Medium.link?_setLink_self _ _ _ _
  · rw [medium]
    intro _
    rfl
  · intro n below
    exact (Nat.not_lt_zero n below).elim
  · rw [ready.agenda, table]
    rfl

/-- A client and a server that agree with an account of the counters sent. -/
structure Tallies (arrives : Nat → Bool) (c : Client) (r : Reception) (w : World κ μ) : Prop where
  client : w.clientAt 3 0 = some c
  delivered : c.delivered = r.received
  server : (w.motes.find? 1).bind Mote.firmware? = some (.server r.received)
  account : r.Account arrives c.sent

/-- In every phase the script has accounted for what the client has sent. -/
theorem tallies {phase : Phase} (held : net timeout echo limit j ratio d phase w) :
    ∃ c r, Counts timeout r (bench timeout echo limit j (arrives ratio d) phase : Bench κ).host ∧
      Tallies (arrives ratio d) c r w := by
  have account := Reception.account_afterSending (arrives ratio d)
  have server {n : Nat} (there : w.motes.find? 1 =
      some ⟨#[.server (Reception.reached (arrives ratio d) n)]⟩) :
      (w.motes.find? 1).bind Mote.firmware? =
        some (.server (Reception.afterSending (arrives ratio d) n).received) := by
    rw [there, (account n).received]
    rfl
  cases phase with
  | booting id others =>
    obtain ⟨order, net⟩ := held
    refine ⟨_, {}, ?_, World.clientAt_lone net.client, rfl, server net.server, account 0⟩
    rcases order with ⟨rfl, _⟩ | ⟨rfl, _⟩
    · exact ⟨rfl, rfl⟩
    · exact ⟨rfl, rfl⟩
  | sending n =>
    obtain ⟨net, counts⟩ := held
    exact ⟨_, _, counts, World.clientAt_lone net.client, (account n).received.symm, server net.server,
      account n⟩
  | silent =>
    obtain ⟨done, counts⟩ := held
    exact ⟨_, _, counts, World.clientAt_lone done.client, (account limit.toNat).received.symm,
      server done.server, account limit.toNat⟩

/-- By the deadline the client has sent those counters whose time has come before. -/
theorem sent_iff {phase : Phase} (held : net timeout echo limit j ratio d phase w)
    (overdue : phase.Overdue timeout j) {c : Client} (client : w.clientAt 3 0 = some c) (n : Nat) :
    1 ≤ n ∧ n ≤ c.sent ↔ IsSent timeout limit j n := by
  have first := j.le_timerDue (n - 1)
  cases phase with
  | booting id others =>
    obtain ⟨order, net⟩ := held
    obtain rfl := Option.some.inj ((World.clientAt_lone net.client).symm.trans client)
    change timeout < 1333 * id at overdue
    have none_yet : timeout < 603999 := by
      rcases order with ⟨rfl, _⟩ | ⟨rfl, _⟩ <;> omega
    refine iff_of_false ?_ fun sent => ?_
    · simp only [clientAfter]
      omega
    · have := sent.2.1
      omega
  | sending m =>
    obtain ⟨net, _⟩ := held
    obtain rfl := Option.some.inj ((World.clientAt_lone net.client).symm.trans client)
    change timeout ≤ j.timerDue m at overdue
    change 1 ≤ n ∧ n ≤ m ↔ _
    constructor
    · rintro ⟨positive, reached⟩
      refine ⟨positive, net.early (n - 1) (by omega), ?_⟩
      intro nonneg
      have := net.within nonneg
      omega
    · rintro ⟨positive, early, _⟩
      refine ⟨positive, ?_⟩
      by_cases later : m ≤ n - 1
      · have := j.timerDue_mono later
        omega
      · omega
  | silent =>
    obtain ⟨done, _⟩ := held
    obtain rfl := Option.some.inj ((World.clientAt_lone done.client).symm.trans client)
    have nonneg := done.nonneg
    change 1 ≤ n ∧ n ≤ limit.toNat ↔ _
    constructor
    · rintro ⟨positive, reached⟩
      exact ⟨positive, done.early (n - 1) (by omega), fun _ => by omega⟩
    · rintro ⟨positive, _, within⟩
      have := within nonneg
      omega

end Course

/-- The reception scenario, tested by the reception script. -/
def test (act : Behaviour κ μ) (amount : Option Amount) (limit timeout : Int) (echo : Bool)
    (fuel : Nat) : SimM κ μ Nat :=
  tested act (buildReception amount (some limit)) .reception timeout echo fuel

/-- Whether the counters that arrive before the deadline are those up to some number. -/
def Gapless (timeout limit : Int) (j : Jitter) (arrives : Nat → Bool) : Prop :=
  ∃ k, 1 ≤ k ∧ ∀ n, IsSent timeout limit j n ∧ arrives (n - 1) = true ↔ 1 ≤ n ∧ n ≤ k

section Test

variable {timeout limit : Int} {echo : Bool} {ratio : Binary64} {amount : Option Amount} {w : World κ μ}

/-- How the test of a fresh simulation stands after any number of events. -/
theorem test_stands (act : Behaviour κ μ) (echo : Bool) (nonneg : 0 ≤ timeout) (fresh : w.Fresh)
    (legible : Legible timeout limit w.jitter (arrives ratio w.medium.draws))
    (declares : Declares amount ratio) :
    ∃ enough, ∀ fuel, Outcome timeout w.jitter
      (bench timeout echo limit w.jitter (arrives ratio w.medium.draws))
      (net timeout echo limit w.jitter ratio w.medium.draws) (fun _ => False) (fuel < enough)
      (test act amount limit timeout echo fuel w) := by
  have readies (w' : World κ μ) (ready : (Network.reception limit declares).Ready w w') :
      net timeout echo limit w.jitter ratio w.medium.draws (.booting 1 [3]) w' ∧
        w'.agenda = [1, 3].map fun id => (1333 * id, .boot id) := by
    obtain ⟨network, boots⟩ := ready_net ready
    exact ⟨⟨.inl ⟨rfl, rfl⟩, network⟩, boots⟩
  have built := Network.buildReception_eq fresh.standard limit declares
  exact (course act echo legible).scenario_stands .reception echo nonneg fresh
    built rfl readies fun _ never => never.elim

/-- A world whose script and whose firmware agree on what has arrived of the counters sent. -/
structure Counted (timeout : Int) (arrives : Nat → Bool) (host : Host κ) (c : Client) (r : Reception)
    (w : World κ μ) : Prop extends Tallies arrives c r w where
  present : w.hosts[0]? = some host
  script : host.script = .reception timeout true none r

/-- How a test ends at its deadline. -/
structure Judged (timeout limit : Int) (j : Jitter) (arrives : Nat → Bool) (host : Host κ) (c : Client)
    (w : World κ μ) : Prop where
  now : w.now = timeout
  sent : ∀ n, 1 ≤ n ∧ n ≤ c.sent ↔ IsSent timeout limit j n
  passed : host.log.verdict = some .passed ↔ Gapless timeout limit j arrives
  failed : host.log.verdict = some .failed ↔ ¬ Gapless timeout limit j arrives

theorem counted_of_onCourse {phase : Phase} {j : Jitter} {d : Draws}
    (on : OnCourse timeout (bench timeout echo limit j (arrives ratio d))
      (net timeout echo limit j ratio d) phase w) :
    ∃ host c r, Counted timeout (arrives ratio d) host c r w := by
  obtain ⟨c, r, counts, tallies⟩ := tallies on.net
  exact ⟨_, c, r, tallies, on.playing.host, counts.script⟩

/-- The deadline judges by the counters that have arrived. -/
theorem judged_of_expired {phase : Phase} {j : Jitter} {d : Draws}
    (expired : Expired timeout j (bench timeout echo limit j (arrives ratio d))
      (net timeout echo limit j ratio d) phase w) :
    ∃ host c r, Counted timeout (arrives ratio d) host c r w ∧
      Judged timeout limit j (arrives ratio d) host c w := by
  obtain ⟨c, r, counts, tallies⟩ := tallies expired.net
  obtain ⟨script, verdict⟩ := counts.expired
  have sent := sent_iff expired.net expired.overdue tallies.client
  have success : r.success = true ↔ Gapless timeout limit j (arrives ratio d) := by
    simp only [tallies.account.success_iff, sent, Gapless]
  refine ⟨_, c, r, ⟨tallies, expired.describes.host, script⟩, expired.describes.now, sent, ?_, ?_⟩
  · rw [← success]
    change (Host.expired _).log.verdict = _ ↔ _
    rw [verdict]
    cases r.success <;> simp
  · rw [← success]
    change (Host.expired _).log.verdict = _ ↔ _
    rw [verdict]
    cases r.success <;> simp

/-- Whether a test has come to its end or not, the script has accounted for what was sent. -/
theorem counted_of_outcome {j : Jitter} {d : Draws} {unfinished : Prop} {m : SimM κ μ Nat}
    (writable : Numeral.isWritable timeout = true)
    (outcome : Outcome timeout j (bench timeout echo limit j (arrives ratio d))
      (net timeout echo limit j ratio d) (fun _ => False) unfinished (m w)) :
    ∃ host c r, Counted timeout (arrives ratio d) host c r (final m w) := by
  have at_end {phase : Phase} {w' : World κ μ}
      (expired : Expired timeout j (bench timeout echo limit j (arrives ratio d))
        (net timeout echo limit j ratio d) phase w') :
      ∃ host c r, Counted timeout (arrives ratio d) host c r w' := by
    obtain ⟨host, c, r, counted, _⟩ := judged_of_expired expired
    exact ⟨host, c, r, counted⟩
  cases ran : m w with
  | ok h w' =>
    rw [ran] at outcome
    rw [final_ok ran]
    obtain ⟨_, ⟨phase, expired⟩ | never⟩ := outcome
    · exact at_end expired
    · exact never.elim
  | error i w' =>
    rw [ran] at outcome
    rw [final_error ran]
    cases i with
    | failure f =>
      have long := outcome.long
      simp only [writable, Bool.true_eq_false] at long
    | exhausted =>
      cases outcome.1 with
      | on phase on => exact counted_of_onCourse on
      | expired phase expired => exact at_end expired
      | ended never => exact never.elim

/-- A test that has come to its end has been judged at its deadline. -/
theorem judged_of_outcome {j : Jitter} {d : Draws} {unfinished : Prop}
    {result : EStateM.Result Interrupt (World κ μ) Nat} (writable : Numeral.isWritable timeout = true)
    (finished : ¬ unfinished)
    (outcome : Outcome timeout j (bench timeout echo limit j (arrives ratio d))
      (net timeout echo limit j ratio d) (fun _ => False) unfinished result) :
    ∃ w' host c r, result = .ok 0 w' ∧ Counted timeout (arrives ratio d) host c r w' ∧
      Judged timeout limit j (arrives ratio d) host c w' := by
  cases result with
  | ok h w' =>
    obtain ⟨rfl, ⟨phase, expired⟩ | never⟩ := outcome
    · obtain ⟨host, c, r, counted, judged⟩ := judged_of_expired expired
      exact ⟨w', host, c, r, rfl, counted, judged⟩
    · exact never.elim
  | error i w' =>
    cases i with
    | failure f =>
      have long := outcome.long
      simp only [writable, Bool.true_eq_false] at long
    | exhausted => exact absurd outcome.2 finished

/-- A test whose deadline is too long to be written fails when it comes to it. -/
theorem unwritable_of_outcome {j : Jitter} {d : Draws} {unfinished : Prop}
    {result : EStateM.Result Interrupt (World κ μ) Nat} (long : Numeral.isWritable timeout = false)
    (finished : ¬ unfinished)
    (outcome : Outcome timeout j (bench timeout echo limit j (arrives ratio d))
      (net timeout echo limit j ratio d) (fun _ => False) unfinished result) :
    ∃ w', result = .error (.failure .unwritableInteger) w' := by
  cases result with
  | ok h w' =>
    obtain ⟨_, ⟨phase, expired⟩ | never⟩ := outcome
    · have writable := expired.writable
      simp only [long, Bool.false_eq_true] at writable
    · exact never.elim
  | error i w' =>
    cases i with
    | failure f => exact ⟨w', by rw [outcome.failure]⟩
    | exhausted => exact absurd outcome.2 finished

/-- Whatever the seed, the draws, the delays, the ratio of the link and the limit, the reception scenario
runs to its deadline if that is of at most 4300 digits. After any number of events the account of the
script is right, and the test passes if and only if the counters that arrived are those up to some
number. -/
theorem scenario_accounts (act : Behaviour κ μ) (echo : Bool) (observer : Observer) (memory : μ)
    {seed timeout : Int} (limit : Int) (valid : 0 ≤ seed) (nonneg : 0 ≤ timeout)
    (writable : Numeral.isWritable timeout = true) (declares : Declares amount ratio) (draws : Draws)
    (jitter : Jitter) :
    ∃ fresh, World.ofSeed Config.standard (some seed) observer memory = .ok fresh ∧
      (∀ fuel, ∃ host c r, Counted timeout (arrives ratio draws) host c r
        (final (test act amount limit timeout echo fuel) (fresh.chancing draws jitter))) ∧
      ∃ enough, ∀ fuel, enough ≤ fuel → ∃ w' host c r,
        test act amount limit timeout echo fuel (fresh.chancing draws jitter) = .ok 0 w' ∧
        Counted timeout (arrives ratio draws) host c r w' ∧
        Judged timeout limit jitter (arrives ratio draws) host c w' := by
  obtain ⟨made, same, fresh⟩ := World.fresh_ofSeed valid observer memory
  obtain ⟨enough, stands⟩ := test_stands act echo nonneg (fresh.chancing draws jitter)
    (legible_of_isWritable limit jitter _ writable) declares
  refine ⟨made, same, ?_, enough, ?_⟩
  · intro fuel
    exact counted_of_outcome writable (stands fuel)
  · intro fuel more
    exact judged_of_outcome writable (Nat.not_lt.mpr more) (stands fuel)

/-- Five counters over a link of ratio one half, the second of them lost. -/
theorem scenario_accounts_half :
    let half := Binary64.ofScaled 1 1
    let draws := Draws.tape (fun k => if k = 1 then ⟨2 ^ 52, by decide⟩ else 0) 0
    let jitter := Jitter.tape (fun _ => 0) 0
    (0 : Int) ≤ 1 ∧ (0 : Int) ≤ 700000 ∧ Numeral.isWritable 700000 = true ∧
      Declares (some (.double half)) half ∧
      ∃ fresh, World.ofSeed Config.standard (some 1) {} () = .ok fresh ∧
        (∀ fuel, ∃ host c r, Counted 700000 (arrives half draws) host c r
          (final (test (fun (_ : Unit) _ => pure false) (some (.double half)) 5 700000 false fuel)
            (fresh.chancing draws jitter))) ∧
        ∃ enough, ∀ fuel, enough ≤ fuel → ∃ w' host c r,
          test (fun (_ : Unit) _ => pure false) (some (.double half)) 5 700000 false fuel
            (fresh.chancing draws jitter) = .ok 0 w' ∧
          Counted 700000 (arrives half draws) host c r w' ∧
          Judged 700000 5 jitter (arrives half draws) host c w' := by
  have writable : Numeral.isWritable 700000 = true := by decide +kernel
  have declares : Declares (some (.double (Binary64.ofScaled 1 1))) (Binary64.ofScaled 1 1) :=
    .double (by decide +kernel)
  exact ⟨by decide, by decide, writable, declares,
    scenario_accounts _ false {} () 5 (by decide) (by decide) writable declares _ _⟩

/-- Without a counter to send, a deadline of 4301 digits comes next, and the scenario does not return. -/
theorem overlong_deadline_unreturned :
    ∃ fresh, World.ofSeed Config.standard (some 1) {} () = .ok fresh ∧
      ∃ enough, ∀ fuel, enough ≤ fuel → ∃ w',
        test (fun (_ : Unit) _ => pure false) (some (.double (Binary64.ofNat 1))) 0
          ((10 ^ Numeral.digitLimit : Nat) : Int) false fuel fresh =
            .error (.failure .unwritableInteger) w' := by
  obtain ⟨made, same, fresh⟩ : ∃ made : World Unit Unit,
      World.ofSeed Config.standard (some 1) {} () = .ok made ∧ made.Fresh :=
    World.fresh_ofSeed (by decide) {} ()
  have declares : Declares (some (.double (Binary64.ofNat 1))) (Binary64.ofNat 1) :=
    .double (by decide +kernel)
  have unsent (arrives : Nat → Bool) :
      Legible ((10 ^ Numeral.digitLimit : Nat) : Int) 0 made.jitter arrives := by
    rintro n ⟨positive, _, within⟩ _
    have := within (Int.le_refl 0)
    omega
  obtain ⟨enough, stands⟩ := test_stands (fun (_ : Unit) _ => pure false) false (Int.natCast_nonneg _)
    fresh (unsent _) declares
  refine ⟨made, same, enough, ?_⟩
  intro fuel more
  exact unwritable_of_outcome isWritable_overlong (Nat.not_lt.mpr more) (stands fuel)

end Test

end ReceptionLoss

end MoteTrial
