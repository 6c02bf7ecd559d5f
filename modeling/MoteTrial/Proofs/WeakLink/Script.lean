import MoteTrial.Proofs.Client.Course
import MoteTrial.Proofs.Text.FirmwareLines

/-! # The link-fault script on the weak-link network

What the link-fault script makes of the lines of the weak-link network: it logs every counter that the
server receives, and cuts and restores the direct link when the client asks for it, at a third and at
two thirds of the limit.
-/

namespace MoteTrial

open SimM Simulation Scenario LogFile
open MoteTrial.Random (Jitter)

variable {κ μ : Type}

namespace WeakLink

/-- A host whose link-fault script goes on, with both ends bound to the motes of the weak link. -/
structure Bound (timeout : Int) (lines : Array String) (host : Host κ) : Prop where
  script : ∃ state : LinkFault, host.script = .linkFault timeout true state ∧
    state.first = some 1 ∧ state.third = some 3
  lines : host.log.lines = lines
  verdict : host.log.verdict = none
  reason : host.log.reason = ""
  timedOut : host.timedOut = false

/-- The line with which a change is asked for. -/
def request : Change → String
  | .deteriorate => Config.standard.keywordDeteriorate
  | .improve => Config.standard.keywordImprove

section Host

variable {timeout : Int} {lines : Array String} {host : Host κ}

/-- A reception line is logged. -/
theorem Bound.received (bound : Bound timeout lines host) (mote n : Int) :
    let a := host.answer mote ("received " ++ Numeral.decimal n)
    a.outcome = .ok false ∧ a.change? = none ∧
      Bound timeout (lines.push ("received " ++ Numeral.decimal n ++ "\n")) a.settled := by
  obtain ⟨state, script, first, third⟩ := bound.script
  have kind := Message.classify_received n
  simp only [Host.answer, script, Host.answerLinkFault, kind]
  refine ⟨trivial, trivial, ⟨_, rfl, first, third⟩, ?_, bound.verdict, bound.reason, bound.timedOut⟩
  exact congrArg (·.push ("received " ++ Numeral.decimal n ++ "\n")) bound.lines

/-- A request is met. -/
theorem Bound.requested (bound : Bound timeout lines host) (mote : Int) (kind : Change) :
    let a := host.answer mote (request kind)
    a.outcome = .ok false ∧ a.change? = some (kind, 1, 3) ∧ Bound timeout lines a.settled := by
  obtain ⟨state, script, first, third⟩ := bound.script
  have ends (keyword : String) : state.endpoints keyword = .ok (1, 3) :=
    LinkFault.endpoints_eq_ok_iff.mpr ⟨first, third⟩
  have shown : (Numeral.isWritable 1 && Numeral.isWritable 3) = true := by decide +kernel
  cases kind with
  | deteriorate =>
    have kind : Message.classify (request .deteriorate) = .deteriorate := by decide
    simp only [Host.answer, script, Host.answerLinkFault, kind, Host.answerChange, ends, shown,
      ↓reduceIte]
    exact ⟨trivial, trivial, ⟨_, rfl, first, third⟩, bound.lines, bound.verdict, bound.reason,
      bound.timedOut⟩
  | improve =>
    have kind : Message.classify (request .improve) = .improve := by decide
    simp only [Host.answer, script, Host.answerLinkFault, kind, Host.answerChange, ends, shown,
      ↓reduceIte]
    exact ⟨trivial, trivial, ⟨_, rfl, first, third⟩, bound.lines, bound.verdict, bound.reason,
      bound.timedOut⟩

/-- The end of the client is the success of the test. -/
theorem Bound.done (bound : Bound timeout lines host) (mote : Int) :
    let a := host.answer mote Config.standard.keywordDone
    a.outcome = .ok true ∧ a.change? = none ∧ a.settled.log.verdict = some .passed ∧
      a.settled.log.reason = "" ∧ a.settled.log.lines = lines := by
  obtain ⟨state, script, _⟩ := bound.script
  have kind : Message.classify Config.standard.keywordDone = .done := by decide
  simp only [Host.answer, script, Host.answerLinkFault, kind]
  exact ⟨trivial, trivial, rfl, bound.reason, bound.lines⟩

/-- Without it the test fails at its deadline. -/
theorem Bound.expired (bound : Bound timeout lines host) :
    host.expired.log.verdict = some .failed ∧ host.expired.timedOut = true := by
  obtain ⟨state, script, _⟩ := bound.script
  rw [Host.expired_linkFault script bound.verdict]
  exact ⟨rfl, rfl⟩

end Host

/-- The client once it has sent a number of counters, all of them delivered. -/
def clientAfter (limit : Int) (n : Nat) : Client :=
  { route := ⟨1, some 2⟩, limit, counter := n, sent := n, delivered := n }

/-- The change that the client asks for before it sends its next counter. -/
def requestAt (limit : Int) (n : Nat) : Option Change :=
  if 0 < limit / 3 then
    if (n : Int) = limit / 3 then some .deteriorate
    else if (n : Int) = 2 * (limit / 3) then some .improve
    else none
  else none

theorem progress?_clientAfter (limit : Int) (n : Nat) :
    (clientAfter limit n).progress? Config.standard = (requestAt limit n).map request := by
  change Option.map (Milestone.line Config.standard) (if decide (0 < limit / 3) = true then
      if (n : Int) = limit / 3 then some .oneThird
      else if (n : Int) = 2 * (limit / 3) then some .twoThirds
      else none
    else none) = _
  simp only [requestAt, decide_eq_true_eq]
  by_cases large : 0 < limit / 3
  · rw [if_pos large, if_pos large]
    by_cases first : (n : Int) = limit / 3
    · rw [if_pos first, if_pos first]
      rfl
    · rw [if_neg first, if_neg first]
      split <;> rfl
  · rw [if_neg large, if_neg large]
    rfl

/-- Whether the direct link is cut after a number of counters. -/
def cut (limit : Int) (n : Nat) : Bool :=
  decide (0 < limit / 3 ∧ limit / 3 < n ∧ (n : Int) ≤ 2 * (limit / 3))

/-- The direct link, cut or as it usually is. -/
def directLink : Bool → Link
  | true => Change.deteriorate.apply Config.standard Medium.usualLink
  | false => Medium.usualLink

theorem cut_succ (limit : Int) (n : Nat) :
    match requestAt limit n with
    | none => cut limit (n + 1) = cut limit n
    | some kind => kind.apply Config.standard (directLink (cut limit n)) =
        directLink (cut limit (n + 1)) := by
  unfold requestAt
  by_cases large : 0 < limit / 3
  · rw [if_pos large]
    by_cases first : (n : Int) = limit / 3
    · rw [if_pos first]
      have before : cut limit n = false := by
        refine decide_eq_false ?_
        omega
      have after : cut limit (n + 1) = true := by
        refine decide_eq_true ?_
        omega
      simp only [before, after, directLink]
    · rw [if_neg first]
      by_cases second : (n : Int) = 2 * (limit / 3)
      · rw [if_pos second]
        have before : cut limit n = true := by
          refine decide_eq_true ?_
          omega
        have after : cut limit (n + 1) = false := by
          refine decide_eq_false ?_
          omega
        simp only [before, after, directLink, Change.apply, Medium.usualLink]
      · rw [if_neg second]
        simp only [cut, decide_eq_decide]
        omega
  · rw [if_neg large]
    simp only [cut, large, false_and]

/-- The changes that are made while a number of counters are sent. -/
def changes (limit : Int) (j : Jitter) : Nat → Array Mutation
  | 0 => #[]
  | n + 1 =>
    match requestAt limit n with
    | none => changes limit j n
    | some kind => (changes limit j n).push ⟨j.timerDue n, kind, 1, 3⟩

/-- The changes that are made while a number of counters are sent: one at a third of the limit, one at
two thirds. -/
theorem changes_eq (limit : Int) (j : Jitter) (n : Nat) :
    changes limit j n =
      if limit / 3 ≤ 0 ∨ (n : Int) ≤ limit / 3 then #[]
      else if (n : Int) ≤ 2 * (limit / 3) then
        #[⟨j.timerDue (limit / 3).toNat, .deteriorate, 1, 3⟩]
      else #[⟨j.timerDue (limit / 3).toNat, .deteriorate, 1, 3⟩,
        ⟨j.timerDue (2 * (limit / 3)).toNat, .improve, 1, 3⟩] := by
  induction n with
  | zero =>
    rw [if_pos (by omega)]
    rfl
  | succ n ih =>
    unfold changes requestAt
    by_cases large : 0 < limit / 3
    · rw [if_pos large]
      by_cases first : (n : Int) = limit / 3
      · have place : (limit / 3).toNat = n := by omega
        rw [if_pos first, if_neg (by omega), if_pos (by omega)]
        simp only [ih]
        rw [if_pos (by omega), place]
        rfl
      · rw [if_neg first]
        by_cases second : (n : Int) = 2 * (limit / 3)
        · have place : (2 * (limit / 3)).toNat = n := by omega
          rw [if_pos second, if_neg (by omega), if_neg (by omega)]
          simp only [ih]
          rw [if_neg (by omega), if_pos (by omega), place]
          rfl
        · have same : ((n + 1 : Nat) : Int) ≤ limit / 3 ↔ (n : Int) ≤ limit / 3 := by omega
          have same' : ((n + 1 : Nat) : Int) ≤ 2 * (limit / 3) ↔ (n : Int) ≤ 2 * (limit / 3) := by omega
          simp only [if_neg second, ih, same, same']
    · rw [if_neg large, if_pos (by omega)]
      simp only [ih]
      rw [if_pos (by omega)]

/-- The lines that are logged for a number of counters. -/
def reports (n : Nat) : Array String :=
  ((List.range n).map fun k => "received " ++ Numeral.decimal (k + 1 : Nat) ++ "\n").toArray

theorem reports_succ (n : Nat) :
    reports (n + 1) = (reports n).push ("received " ++ Numeral.decimal (n + 1 : Nat) ++ "\n") := by
  simp [reports, List.range_succ]

/-- A script whose client asks for a change if there is one to ask for. -/
def asked (limit : Int) (j : Jitter) (n : Nat) (b : Bench κ) : Bench κ :=
  match requestAt limit n with
  | none => b
  | some kind => b.hear ⟨j.timerDue n, 3, request kind⟩

/-- The script once a number of counters have been sent. -/
def heard (timeout : Int) (echo : Bool) (limit : Int) (j : Jitter) : Nat → Bench κ
  | 0 => ScriptName.linkFault.started timeout echo [1, 2, 3]
  | n + 1 => (asked limit j n (heard timeout echo limit j n)).hear
      ⟨j.timerDue n, 1, "received " ++ Numeral.decimal (n + 1 : Nat)⟩

/-- The script in a phase of the network. -/
def bench (timeout : Int) (echo : Bool) (limit : Int) (j : Jitter) : Phase → Bench κ
  | .booting id _ => ScriptName.linkFault.started timeout echo ([1, 2, 3].filter (· < id))
  | .sending n => heard timeout echo limit j n
  | .silent => ScriptName.linkFault.bench timeout echo

/-- A script with both ends of the weak link bound, and the changes that it has made. -/
structure Stands (timeout : Int) (lines : Array String) (mutations : Array Mutation) (b : Bench κ) :
    Prop where
  bound : Bound timeout lines b.host
  mutations : b.mutations = mutations

section Stands

variable {timeout : Int} {lines : Array String} {mutations : Array Mutation} {b : Bench κ}

theorem Stands.received (stands : Stands timeout lines mutations b)
    (listening : b.host.finished = false) (time mote n : Int) :
    Stands timeout (lines.push ("received " ++ Numeral.decimal n ++ "\n")) mutations
      (b.hear ⟨time, mote, "received " ++ Numeral.decimal n⟩) := by
  obtain ⟨_, still, bound⟩ := stands.bound.received mote n
  rw [Bench.hear_listening listening]
  refine ⟨bound, ?_⟩
  simp only [Bench.mutated, still]
  exact stands.mutations

theorem Stands.requested (stands : Stands timeout lines mutations b)
    (listening : b.host.finished = false) (time mote : Int) (kind : Change) :
    Stands timeout lines (mutations.push ⟨time, kind, 1, 3⟩) (b.hear ⟨time, mote, request kind⟩) := by
  obtain ⟨_, change, bound⟩ := stands.bound.requested mote kind
  rw [Bench.hear_listening listening]
  refine ⟨bound, ?_⟩
  simp only [Bench.mutated, change]
  exact congrArg (·.push ⟨time, kind, 1, 3⟩) stands.mutations

theorem stands_started (timeout : Int) (echo : Bool) :
    Stands timeout #[] #[] (ScriptName.linkFault.started timeout echo [1, 2, 3] : Bench κ) :=
  ⟨⟨⟨_, rfl, rfl, rfl⟩, rfl, rfl, rfl, rfl⟩, rfl⟩

end Stands

end WeakLink

end MoteTrial
