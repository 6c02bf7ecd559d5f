import MoteTrial.Proofs.Reception.Progress

/-! # Better links

Two tests of the reception network that differ in the ratio of the link only. The client sends when its
timer expires, whatever arrives, and every counter has a draw of its own, so that the tests send alike
and a counter that arrives on a link arrives on every better one: `better_link`. On a dead link nothing
is drawn, but nothing arrives either. Only a counter that is too long to be written is better lost.
-/

namespace MoteTrial

open SimM Simulation Scenario
open MoteTrial.Random (Draws Jitter)

namespace Binary64

theorem le_trans {a b c : Binary64} (first : a.le b = true) (second : b.le c = true) :
    a.le c = true := by
  cases a <;> cases b <;> cases c
  all_goals simp_all [le]
  all_goals grind

theorem lt_of_lt_of_le {a b c : Binary64} (first : a.lt b = true) (second : b.le c = true) :
    a.lt c = true := by
  cases a <;> cases b <;> cases c
  all_goals simp_all [lt, le]
  grind

end Binary64

variable {κ μ : Type}

namespace ReceptionLoss

/-- What arrives on a link arrives on a better one. -/
theorem arrives_mono {p q : Binary64} (better : p.le q = true) {d : Draws} {n : Nat}
    (here : arrives p d n = true) : arrives q d n = true := by
  unfold arrives at here ⊢
  rw [Bool.and_eq_true, Bool.not_eq_true'] at here ⊢
  obtain ⟨live, drawn⟩ := here
  refine ⟨?_, Binary64.lt_of_lt_of_le drawn better⟩
  cases dead : q.le Binary64.zero with
  | false => rfl
  | true => exact (Binary64.le_trans better dead).symm.trans live

section Spared

variable {timeout limit : Int} {j : Jitter} {p q : Binary64} {d : Draws} {n : Nat}

/-- Whether every counter that the test over the better of two links delivers, and the worse one loses,
can be written, unless it is the last to be sent. -/
def Spared (timeout limit : Int) (j : Jitter) (d : Draws) (p q : Binary64) : Prop :=
  ∀ n, IsSent timeout limit j (n + 1) → Unbroken (arrives q d) (n - 1) →
    arrives q d (n - 1) = true → arrives p d (n - 1) = false → Numeral.isWritable n = true

/-- A test over a worse link is not broken sooner. -/
theorem Unbroken.worse (unbroken : Unbroken (arrives q d) n) (order : p.le q = true) :
    Unbroken (arrives p d) n := fun k before here => unbroken k before (arrives_mono order here)

/-- Up to a counter that is sent, a test over a better link is not broken sooner either. -/
theorem Spared.unbroken (spared : Spared timeout limit j d p q) (sent : IsSent timeout limit j n)
    (unbroken : Unbroken (arrives p d) (n - 1)) : Unbroken (arrives q d) (n - 1) := by
  have reach (m : Nat) (le : m ≤ n - 1) : Unbroken (arrives q d) m := by
    induction m with
    | zero => exact fun k before => absurd before (Nat.not_lt_zero k)
    | succ m ih =>
      have earlier := ih (by omega)
      refine earlier.succ fun here => ?_
      cases lost : arrives p d m with
      | true => exact unbroken m (by omega) lost
      | false => exact spared (m + 1) (sent.earlier (by omega) (by omega)) earlier here lost
  exact reach (n - 1) (Nat.le_refl _)

/-- A deadline that can be written leaves no time for a counter that cannot. -/
theorem spared_of_isWritable (limit : Int) (j : Jitter) (d : Draws) (p q : Binary64)
    (writable : Numeral.isWritable timeout = true) : Spared timeout limit j d p q := by
  rintro n ⟨-, early, -⟩ - - -
  have := j.le_timerDue (n + 1 - 1)
  exact isWritable_of_le (by omega) (by omega) writable

end Spared

section Test

variable {timeout limit : Int} {echo : Bool} {ratio : Binary64} {amount : Option Amount} {w : World κ μ}

/-- Over a better link the client sends the same counters at the same times, and what is delivered over
the worse one is delivered over the better one; both tests come to their end. This holds for all seeds,
draws, delays, limits and deadlines, as long as no counter of more than 4300 digits that is lost over the
worse link is delivered over the better one, unless it is the last to be sent. -/
theorem better_link (act act' : Behaviour κ μ) (echo echo' : Bool) (observer : Observer) (memory : μ)
    {seed timeout : Int} (limit : Int) (valid : 0 ≤ seed) (nonneg : 0 ≤ timeout)
    {amount amount' : Option Amount} {p q : Binary64} (worse : Declares amount p)
    (better : Declares amount' q) (order : p.le q = true) (draws : Draws) (jitter : Jitter)
    (spared : Spared timeout limit jitter draws p q) :
    ∃ fresh, World.ofSeed Config.standard (some seed) observer memory = .ok fresh ∧
      (∀ n time,
        SendsAt (duringTest act amount limit timeout echo (fresh.chancing draws jitter)) n time ↔
        SendsAt (duringTest act' amount' limit timeout echo' (fresh.chancing draws jitter)) n time) ∧
      (∀ n, Delivers (duringTest act amount limit timeout echo (fresh.chancing draws jitter)) n →
        Delivers (duringTest act' amount' limit timeout echo' (fresh.chancing draws jitter)) n) ∧
      ∃ enough, ∀ fuel, enough ≤ fuel →
        Concludes timeout (test act amount limit timeout echo fuel (fresh.chancing draws jitter)) ∧
        Concludes timeout
          (test act' amount' limit timeout echo' fuel (fresh.chancing draws jitter)) := by
  obtain ⟨made, same, fresh⟩ : ∃ made : World κ μ,
      World.ofSeed Config.standard (some seed) observer memory = .ok made ∧ made.Fresh :=
    World.fresh_ofSeed valid observer memory
  have chancing := fresh.chancing draws jitter
  obtain ⟨start, underway, first⟩ := test_worlds act limit echo nonneg chancing worse
  obtain ⟨start', underway', second⟩ := test_worlds act' limit echo' nonneg chancing better
  have first : duringTest act amount limit timeout echo (made.chancing draws jitter) =
      worlds act start := funext first
  have second : duringTest act' amount' limit timeout echo' (made.chancing draws jitter) =
      worlds act' start' := funext second
  refine ⟨made, same, ?_, ?_, ?_⟩
  · intro n time
    rw [first, second, underway.sendsAt_iff act time, underway'.sendsAt_iff act' time]
    constructor
    · rintro ⟨sent, unbroken, due⟩
      exact ⟨sent, spared.unbroken sent unbroken, due⟩
    · rintro ⟨sent, unbroken, due⟩
      exact ⟨sent, unbroken.worse order, due⟩
  · intro n delivered
    rw [first] at delivered
    obtain ⟨sent, unbroken, here⟩ := (underway.delivers_iff act).mp delivered
    rw [second]
    exact (underway'.delivers_iff act').mpr
      ⟨sent, spared.unbroken sent unbroken, arrives_mono order here⟩
  · obtain ⟨enough, ends⟩ := concludes_test act limit echo nonneg chancing worse
    obtain ⟨enough', ends'⟩ := concludes_test act' limit echo' nonneg chancing better
    refine ⟨max enough enough', ?_⟩
    intro fuel more
    exact ⟨ends fuel (by omega), ends' fuel (by omega)⟩

/-- Two counters over a link of ratio one half and over a sure one; the first draw is too high for the
former. -/
theorem better_link_half :
    let half := Binary64.ofScaled 1 1
    let sure := Binary64.ofNat 1
    let draws := Draws.tape (fun k => if k = 0 then ⟨2 ^ 52, by decide⟩ else 0) 0
    let jitter := Jitter.tape (fun _ => 0) 0
    let act : Behaviour Unit Unit := fun _ _ => pure false
    (0 : Int) ≤ 1 ∧ (0 : Int) ≤ 700000 ∧ Declares (some (.double half)) half ∧
      Declares (some (.double sure)) sure ∧ half.le sure = true ∧
      Spared 700000 2 jitter draws half sure ∧
      ∃ fresh, World.ofSeed Config.standard (some 1) {} () = .ok fresh ∧
        (∀ n time,
          SendsAt (duringTest act (some (.double half)) 2 700000 false
            (fresh.chancing draws jitter)) n time ↔
          SendsAt (duringTest act (some (.double sure)) 2 700000 false
            (fresh.chancing draws jitter)) n time) ∧
        (∀ n, Delivers (duringTest act (some (.double half)) 2 700000 false
            (fresh.chancing draws jitter)) n →
          Delivers (duringTest act (some (.double sure)) 2 700000 false
            (fresh.chancing draws jitter)) n) ∧
        ∃ enough, ∀ fuel, enough ≤ fuel →
          Concludes 700000 (test act (some (.double half)) 2 700000 false fuel
            (fresh.chancing draws jitter)) ∧
          Concludes 700000 (test act (some (.double sure)) 2 700000 false fuel
            (fresh.chancing draws jitter)) := by
  have worse : Declares (some (.double (Binary64.ofScaled 1 1))) (Binary64.ofScaled 1 1) :=
    .double (by decide +kernel)
  have better : Declares (some (.double (Binary64.ofNat 1))) (Binary64.ofNat 1) :=
    .double (by decide +kernel)
  have order : (Binary64.ofScaled 1 1).le (Binary64.ofNat 1) = true := by decide +kernel
  have writable : Numeral.isWritable 700000 = true := by decide +kernel
  have spared := spared_of_isWritable 2 (.tape (fun _ => 0) 0)
    (.tape (fun k => if k = 0 then ⟨2 ^ 52, by decide⟩ else 0) 0) (Binary64.ofScaled 1 1)
    (Binary64.ofNat 1) writable
  exact ⟨by decide, by decide, worse, better, order, spared,
    better_link _ _ false false {} () 2 (by decide) (by decide) worse better order _ _ spared⟩

/-- On a sure link everything arrives. -/
theorem arrives_sure (d : Draws) (n : Nat) : arrives (Binary64.ofNat 1) d n = true := by
  have live : (Binary64.ofNat 1).le Binary64.zero = false := by decide +kernel
  unfold arrives
  rw [live, Medium.drawValue_lt_one]
  rfl

/-- On a dead link nothing arrives. -/
theorem arrives_dead (d : Draws) (n : Nat) : arrives Binary64.zero d n = false := by
  have dead : Binary64.zero.le Binary64.zero = true := by decide +kernel
  unfold arrives
  rw [dead]
  rfl

/-- On a sure link the test fails at a counter that is too long to be written. -/
theorem not_unbroken_sure {n : Nat} (long : Numeral.isWritable n = false) (d : Draws) :
    ¬ Unbroken (arrives (Binary64.ofNat 1) d) n := by
  intro unbroken
  cases n with
  | zero => cases isWritable_zero.symm.trans long
  | succ n => cases (unbroken n (Nat.lt_succ_self n) (arrives_sure d n)).symm.trans long

/-- A client without a limit sends the counter after the first of 4301 digits over a dead link, but not
over a sure one, on which the server has failed by then. -/
theorem overlong_counter_stops_better_link :
    let dead := Binary64.zero
    let sure := Binary64.ofNat 1
    let overlong : Nat := 10 ^ Numeral.digitLimit
    let timeout : Int := 604000 + 10500 * overlong
    let act : Behaviour Unit Unit := fun _ _ => pure false
    Declares (some (.double dead)) dead ∧ Declares (some (.double sure)) sure ∧
      dead.le sure = true ∧
      ∃ fresh, World.ofSeed Config.standard (some 1) {} () = .ok fresh ∧
        (∃ time, SendsAt (duringTest act (some (.double dead)) (-1) timeout false fresh)
          (overlong + 1) time) ∧
        ¬ ∃ time, SendsAt (duringTest act (some (.double sure)) (-1) timeout false fresh)
          (overlong + 1) time := by
  intro dead sure overlong timeout act
  have long : Numeral.isWritable overlong = false := isWritable_overlong
  have worse : Declares (some (.double dead)) dead := .double (by decide +kernel)
  have better : Declares (some (.double sure)) sure := .double (by decide +kernel)
  have nonneg : 0 ≤ timeout := Int.add_nonneg (by decide) (Int.mul_nonneg (by decide)
    (Int.natCast_nonneg overlong))
  obtain ⟨made, same, fresh⟩ : ∃ made : World Unit Unit,
      World.ofSeed Config.standard (some 1) {} () = .ok made ∧ made.Fresh :=
    World.fresh_ofSeed (by decide) {} ()
  obtain ⟨start, underway, first⟩ := test_worlds act (-1) false nonneg fresh worse
  obtain ⟨start', underway', second⟩ := test_worlds act (-1) false nonneg fresh better
  refine ⟨worse, better, by decide +kernel, made, same, ⟨made.jitter.timerDue overlong, ?_⟩, ?_⟩
  · have latest := made.jitter.timerDue_le overlong
    rw [show duringTest act (some (.double dead)) (-1) timeout false made = worlds act start from
      funext first, underway.sendsAt_iff act]
    refine ⟨⟨Nat.succ_pos overlong, ?_, fun limited => absurd limited (by decide)⟩, ?_, rfl⟩
    · exact Int.lt_of_le_of_lt latest (Int.add_lt_add_right (by decide) _)
    · intro k _ here
      cases (arrives_dead made.medium.draws k).symm.trans here
  · rintro ⟨time, sends⟩
    rw [show duringTest act (some (.double sure)) (-1) timeout false made = worlds act start' from
      funext second, underway'.sendsAt_iff act] at sends
    exact not_unbroken_sure long made.medium.draws sends.2.1

end Test

end ReceptionLoss

end MoteTrial
