import MoteTrial.Proofs.Replay.ReplayedTest

/-! # What the reception script makes of a log

The verdict on a log is read off the counters of its reception lines in the order of the replay, up to
the first reception line without a counter, which fails the script. What is lost, what is logged and
whether the test is passed are computed from the list of counters: `reception_replay`.
-/

namespace MoteTrial

open SimM LogFile

namespace Tally

/-- The counter before the next one, zero at first. -/
def last (counters : List Int) : Int := counters.getLast?.getD 0

/-- The numbers that a counter jumps over. -/
def skipped (s : Stage Int) : Nat := (s.here - last s.past - 1).toNat

/-- The numbers that have been jumped over. -/
def lost (counters : List Int) : Nat := ((stages counters).map skipped).sum

/-- The counters that do not advance. -/
def late (counters : List Int) : Nat := (stages counters).countP fun s => s.here ≤ last s.past

/-- The account of some counters. -/
def account (counters : List Int) : MoteTrial.Reception where
  last := last counters
  lost := lost counters
  received := counters.length
  outOfOrder := late counters

/-- The line that is logged for a counter: the counter, the losses so far, and the counter before. -/
def report (s : Stage Int) : String :=
  Numeral.decimal s.here ++ " " ++ Numeral.decimal (lost (s.past ++ [s.here])) ++ " " ++
    Numeral.decimal (last s.past) ++ "\n"

/-- There are counters, the last is not zero, and none jumps ahead. -/
def Gapless (counters : List Int) : Prop :=
  counters ≠ [] ∧ last counters ≠ 0 ∧ ∀ s ∈ stages counters, s.here ≤ last s.past + 1

instance : DecidablePred Gapless := fun _ => inferInstanceAs (Decidable (_ ∧ _ ∧ _))

/-- Whether a line tells of a reception. -/
def isReception (r : Record) : Bool := Text.startsWith r.msg Config.standard.keywordReceived

/-- The integer that is the second word of a line. -/
def counter? (r : Record) : Option Int :=
  (Text.words r.msg.toList)[1]?.bind fun token => (Numeral.readInt token).toOption

/-- Whether a line tells of a reception without a counter. -/
def isMalformed (r : Record) : Bool := isReception r && (counter? r).isNone

/-- The counter of a reception line. -/
def reading? (r : Record) : Option Int := if isReception r then counter? r else none

/-- The first malformed line. -/
def malformed? (records : List Record) : Option Record := records.find? isMalformed

/-- The counters of the reception lines before it. -/
def counters (records : List Record) : List Int :=
  (records.takeWhile fun r => !isMalformed r).filterMap reading?

/-- The time at which the test ends. -/
def endTime (timeout : Int) (records : List Record) : Int :=
  ((malformed? records).map (·.time)).getD timeout

/-- How a test with the reception script ends: the account and the log are those of the counters. The
test fails at the first malformed line, with a failure of the script; else it ends at the deadline, and
is passed if no counter jumps ahead. -/
structure Concludes {κ : Type} (timeout : Int) (records : List Record) (b : Bench κ) : Prop where
  state : b.host.script = .reception timeout true none (account (counters records))
  lines : b.host.log.lines.toList = (stages (counters records)).map report
  now : b.now = endTime timeout records
  verdict : match malformed? records with
    | some _ => b.host.log.verdict = some .failed ∧
        ∃ f : Failure, b.host.error = some f ∧ f.name = "MalformedMessageError"
    | none => b.host.error = none ∧
        b.host.log.verdict = some (if Gapless (counters records) then .passed else .failed)

section Account

variable {cs : List Int} {c : Int}

theorem last_append (cs : List Int) (c : Int) : last (cs ++ [c]) = c := by
  simp [last]

theorem lost_append (cs : List Int) (c : Int) :
    lost (cs ++ [c]) = lost cs + (c - last cs - 1).toNat := by
  rw [lost, stages_append, List.map_append, List.sum_append, List.map_singleton, List.sum_singleton]
  rfl

theorem late_append (cs : List Int) (c : Int) :
    late (cs ++ [c]) = if c ≤ last cs then late cs + 1 else late cs := by
  rw [late, stages_append, List.countP_append, List.countP_singleton]
  simp only [decide_eq_true_eq]
  split
  · rfl
  · rfl

/-- The script accounts for a counter as for the last one. -/
theorem account_append (cs : List Int) (c : Int) :
    account (cs ++ [c]) = (account cs).record c := by
  simp only [account, MoteTrial.Reception.record, MoteTrial.Reception.gap, last_append, lost_append,
    late_append, List.length_append, List.length_singleton]
  rfl

theorem lost_le_append (cs more : List Int) : lost cs ≤ lost (cs ++ more) := by
  induction more using List.reverseRecOn with
  | nil => exact Nat.le_of_eq (by rw [List.append_nil])
  | append_singleton more c ih =>
    rw [← List.append_assoc, lost_append]
    omega

/-- Nothing is lost just if no counter jumps ahead. -/
theorem lost_eq_zero_iff : lost cs = 0 ↔ ∀ s ∈ stages cs, s.here ≤ last s.past + 1 := by
  unfold lost
  rw [List.sum_eq_zero_iff_forall_eq_nat]
  constructor
  · intro none s member
    have := none (skipped s) (List.mem_map_of_mem member)
    unfold skipped at this
    omega
  · intro small n member
    obtain ⟨s, within, rfl⟩ := List.mem_map.mp member
    have := small s within
    unfold skipped
    omega

theorem success_iff : (account cs).success = true ↔ Gapless cs := by
  unfold MoteTrial.Reception.success account Gapless
  simp only [Bool.and_eq_true, bne_iff_ne, beq_iff_eq, lost_eq_zero_iff]
  constructor
  · rintro ⟨nonzero, small⟩
    refine ⟨?_, nonzero, small⟩
    rintro rfl
    exact nonzero rfl
  · rintro ⟨-, nonzero, small⟩
    exact ⟨nonzero, small⟩

end Account

section Lines

variable {r : Record}

theorem parseReceived_foreign (foreign : isReception r = false) :
    Message.parseReceived Config.standard r.msg = .ok none := by
  unfold isReception at foreign
  rw [Message.parseReceived, foreign]
  rfl

theorem parseReceived_counter {c : Int} (found : reading? r = some c) :
    Message.parseReceived Config.standard r.msg = .ok (some c) := by
  unfold reading? isReception at found
  unfold Message.parseReceived
  cases starts : Text.startsWith r.msg Config.standard.keywordReceived with
  | false =>
    rw [starts] at found
    cases found
  | true =>
    rw [starts, if_pos rfl] at found
    obtain ⟨token, second, read⟩ := Option.bind_eq_some_iff.mp found
    cases value : Numeral.readInt token with
    | error fault =>
      rw [value] at read
      cases read
    | ok n =>
      rw [value] at read
      obtain rfl := Option.some.inj read
      simp [second, value]

theorem parseReceived_malformed (malformed : isMalformed r = true) :
    ∃ f : Failure, Message.parseReceived Config.standard r.msg = .error f ∧ f.settled = f ∧
      f.name = "MalformedMessageError" := by
  obtain ⟨starts, missing⟩ := Bool.and_eq_true_iff.mp malformed
  unfold isReception at starts
  unfold counter? at missing
  unfold Message.parseReceived
  cases second : (Text.words r.msg.toList)[1]? with
  | none => exact ⟨.missingCounter r.msg, by simp [starts], rfl, rfl⟩
  | some token =>
    cases value : Numeral.readInt token with
    | error fault =>
      exact ⟨.badCounter (String.ofList token) r.msg, by simp [starts, value], rfl, rfl⟩
    | ok n => simp [second, value, Except.toOption] at missing

/-- A line is malformed, or has a counter, or is foreign to the script. -/
theorem reading?_eq_none (sound : isMalformed r = false) (unread : reading? r = none) :
    isReception r = false := by
  unfold isMalformed at sound
  unfold reading? at unread
  cases reception : isReception r with
  | false => rfl
  | true =>
    rw [reception, if_pos rfl] at unread
    rw [reception, unread] at sound
    cases sound

end Lines

section Test

variable {κ : Type} {timeout : Int} {cs : List Int} {records : List Record} {r : Record} {b : Bench κ}

/-- A test that goes on after lines with the counters `cs`. -/
structure Underway (timeout : Int) (cs : List Int) (b : Bench κ) : Prop where
  script : b.host.script = .reception timeout true none (account cs)
  listening : b.host.finished = false
  undecided : b.host.log.verdict = none
  intact : b.host.error = none
  lines : b.host.log.lines.toList = (stages cs).map report

theorem underway_start (timeout : Int) (echo : Bool) :
    Underway timeout [] (ScriptName.reception.bench timeout echo : Bench κ) :=
  ⟨rfl, rfl, rfl, rfl, rfl⟩

theorem answer_reception {host : Host κ} {state : MoteTrial.Reception}
    (script : host.script = .reception timeout true none state) (mote : Int) (msg : String) :
    host.answer mote msg = (host.facing mote msg).answerReception timeout state msg := by
  simp only [Host.answer, script]

/-- The integers of the line for a counter can be written if the last two counters can and the losses. -/
theorem canLog_account {c : Int} (counter : Numeral.isWritable c = true)
    (before : Numeral.isWritable (last cs) = true)
    (losses : Numeral.isWritable (lost (cs ++ [c])) = true) :
    Host.canLog (account cs) c = true := by
  unfold Host.canLog
  rw [← account_append, counter, show (account cs).last = last cs from rfl, before,
    show (account (cs ++ [c])).lost = lost (cs ++ [c]) from rfl, losses]
  rfl

/-- A counter is accounted for and logged. -/
theorem Underway.hear_counter {c : Int} (underway : Underway timeout cs b) (found : reading? r = some c)
    (writable : Host.canLog (account cs) c = true) : Underway timeout (cs ++ [c]) (b.hear r) := by
  rw [Bench.hear_listening underway.listening, answer_reception underway.script]
  simp only [Host.answerReception, parseReceived_counter found, writable, ↓reduceIte]
  refine ⟨?_, underway.listening, underway.undecided, underway.intact, ?_⟩
  · rw [account_append]
    rfl
  · rw [stages_append, List.map_append, ← underway.lines]
    refine Array.toList_push.trans ?_
    rw [Host.receptionLine, ← account_append]
    rfl

/-- A line without a counter changes nothing. -/
theorem Underway.hear_foreign (underway : Underway timeout cs b) (foreign : isReception r = false) :
    Underway timeout cs (b.hear r) := by
  rw [Bench.hear_listening underway.listening, answer_reception underway.script]
  simp only [Host.answerReception, parseReceived_foreign foreign]
  exact ⟨underway.script, underway.listening, underway.undecided, underway.intact, underway.lines⟩

/-- The integers that are written for some counters. -/
structure Legible (counters : List Int) : Prop where
  counter : ∀ c ∈ counters, Numeral.isWritable c = true
  losses : Numeral.isWritable (lost counters) = true

theorem Legible.left {more : List Int} (legible : Legible (cs ++ more)) : Legible cs where
  counter c member := legible.counter c (List.mem_append_left _ member)
  losses := isWritable_of_le (Int.natCast_nonneg _) (Int.ofNat_le.mpr (lost_le_append cs more))
    legible.losses

theorem Legible.last (legible : Legible cs) : Numeral.isWritable (Tally.last cs) = true := by
  unfold Tally.last
  cases found : cs.getLast? with
  | none => exact isWritable_zero
  | some c => exact legible.counter c (List.mem_of_getLast? found)

/-- A test goes on through lines that are not malformed. -/
theorem underway_hearAll (timeout : Int) (echo : Bool) (sound : ∀ r ∈ records, isMalformed r = false)
    (legible : Legible (records.filterMap reading?)) :
    Underway timeout (records.filterMap reading?)
      ((ScriptName.reception.bench timeout echo : Bench κ).hearAll records) := by
  induction records using List.reverseRecOn with
  | nil => exact underway_start timeout echo
  | append_singleton xs r ih =>
    rw [List.filterMap_append] at legible ⊢
    rw [Bench.hearAll_append]
    have before := ih (fun s member => sound s (List.mem_append_left _ member)) legible.left
    cases found : reading? r with
    | none =>
      have well_formed := sound r (List.mem_append_right _ (List.mem_singleton_self r))
      simpa [found] using before.hear_foreign (reading?_eq_none well_formed found)
    | some c =>
      have one : [r].filterMap reading? = [c] := by simp [found]
      rw [one] at legible ⊢
      refine before.hear_counter found (canLog_account ?_ legible.left.last legible.losses)
      exact legible.counter c (List.mem_append_right _ (List.mem_singleton_self c))

/-- A malformed line fails the script, and leaves the account as it was. -/
theorem Underway.concludes_malformed (underway : Underway timeout (counters records) b)
    (found : malformed? records = some r) :
    (b.hear r).host.finished = true ∧ Concludes timeout records (b.hear r) := by
  obtain ⟨f, refused, settled, name⟩ := parseReceived_malformed (List.find?_some found)
  have heard : b.hear r =
      { host := (b.host.facing r.mote r.msg).crashed f, mutations := b.mutations, now := r.time } := by
    rw [Bench.hear_listening underway.listening, answer_reception underway.script]
    simp only [Host.answerReception, refused, settled]
    rfl
  rw [heard]
  refine ⟨rfl, underway.script, ?_, ?_, ?_⟩
  · rw [← underway.lines]
    exact congrArg Array.toList (TestLog.lines_failed _ _)
  · rw [endTime, found]
    rfl
  · rw [found]
    refine ⟨?_, f, rfl, name⟩
    exact congrArg TestLog.verdict (TestLog.failed_of_undecided underway.undecided _)

/-- A counter with which the losses are too many to be written fails the script, once it is accounted
for. -/
theorem Underway.breaks_off {c : Int} (underway : Underway timeout cs b) (found : reading? r = some c)
    (overlong : Numeral.isWritable (lost (cs ++ [c])) = false) :
    (b.hear r).host.finished = true ∧ (b.hear r).host.error = some .unwritableInteger ∧
      (b.hear r).host.script = .reception timeout true none (account (cs ++ [c])) := by
  have unlogged : Host.canLog (account cs) c = false := by
    unfold Host.canLog
    rw [← account_append, show (account (cs ++ [c])).lost = lost (cs ++ [c]) from rfl, overlong,
      Bool.and_false, Bool.false_and]
  rw [Bench.hear_listening underway.listening, answer_reception underway.script]
  simp only [Host.answerReception, parseReceived_counter found, unlogged, Bool.false_eq_true,
    ↓reduceIte, account_append]
  exact ⟨rfl, rfl, rfl⟩

/-- At the deadline the test is passed if no counter jumps ahead. -/
theorem Underway.concludes_at_deadline (underway : Underway timeout (counters records) b)
    (sound : malformed? records = none) : Concludes timeout records (b.expire timeout) := by
  rw [Bench.expire, Host.expired_reception underway.script underway.undecided]
  refine ⟨underway.script, ?_, ?_, ?_⟩
  · rw [← underway.lines]
    cases (account (counters records)).success with
    | true => rfl
    | false => exact congrArg Array.toList (TestLog.lines_failed _ _)
  · rw [endTime, sound]
    rfl
  · rw [sound]
    refine ⟨underway.intact, ?_⟩
    cases success : (account (counters records)).success with
    | true =>
      rw [if_pos (success_iff.mp success)]
      rfl
    | false =>
      have ahead : ¬ Gapless (counters records) := by
        intro gapless
        rw [success_iff.mpr gapless] at success
        cases success
      rw [if_neg ahead]
      exact congrArg TestLog.verdict (TestLog.failed_of_undecided underway.undecided _)

/-- The test ends as the counters of its lines tell. -/
theorem concludes_outcome (timeout : Int) (echo : Bool) (legible : Legible (counters records)) :
    Concludes timeout records
      ((ScriptName.reception.bench timeout echo : Bench κ).outcome timeout records) := by
  let before := records.takeWhile fun r => !isMalformed r
  have sound : ∀ r ∈ before, isMalformed r = false := by
    intro r member
    simpa using List.all_eq_true.mp List.all_takeWhile r member
  have underway := underway_hearAll (κ := κ) timeout echo sound legible
  cases found : malformed? records with
  | none =>
    have all : before = records := List.takeWhile_eq_self_iff.mpr (by simpa [malformed?] using found)
    have read : counters records = records.filterMap reading? := congrArg (List.filterMap reading?) all
    rw [all, ← read] at underway
    rw [Bench.outcome_listening underway.listening]
    exact underway.concludes_at_deadline found
  | some r =>
    obtain ⟨rest, shape⟩ : ∃ rest, records = before ++ r :: rest := exists_eq_takeWhile_append found
    obtain ⟨finished, concludes⟩ := underway.concludes_malformed found
    rw [← Bench.outcome_ended finished rest, ← shape] at concludes
    exact concludes

end Test

section Replay

variable {κ μ : Type} {timeout : Int} {w : World κ μ} {fuel : Nat}

/-- A replay to the reception script ends as the counters of its lines, up to the deadline, tell, if the
time of the end, the counters and the losses can be written. -/
theorem reception_replay (act : Behaviour κ μ) (echo : Bool) (fresh : w.Fresh) (nonneg : 0 ≤ timeout)
    (records : List Record)
    (writable : Numeral.isWritable (endTime timeout (Replay.upTo timeout records)) = true)
    (legible : Legible (counters (Replay.upTo timeout records)))
    (enough : records.length + 2 ≤ fuel) :
    ∃ b : Bench κ, Concludes timeout (Replay.upTo timeout records) b ∧
      b.IsEnd (Replay.test act .reception timeout echo fuel records w) := by
  have concludes := concludes_outcome (κ := κ) timeout echo legible
  rw [← concludes.now] at writable
  exact ⟨_, concludes, replay_ends act .reception echo fresh nonneg records writable enough⟩

/-- A log with a foreign line, a counter twice, one that jumps ahead, and one after the deadline. -/
def gappy : List Record :=
  [⟨100, 1, "received 4"⟩, ⟨20, 1, "received 1"⟩, ⟨5, 3, "1 started"⟩, ⟨20, 1, "received 1 again"⟩,
    ⟨101, 1, "received"⟩]

theorem upTo_gappy : Replay.upTo 100 gappy =
    [⟨5, 3, "1 started"⟩, ⟨20, 1, "received 1"⟩, ⟨20, 1, "received 1 again"⟩,
      ⟨100, 1, "received 4"⟩] := by
  have clocked : gappy.map Record.onClock = gappy := by decide
  rw [Replay.upTo, Replay.sorted, clocked]
  simp [gappy, List.mergeSort]

theorem reception_replay_gappy :
    let w : World Unit Unit := World.plain ()
    w.Fresh ∧ (0 : Int) ≤ 100 ∧
      Numeral.isWritable (endTime 100 (Replay.upTo 100 gappy)) = true ∧
      Legible (counters (Replay.upTo 100 gappy)) ∧ gappy.length + 2 ≤ 7 ∧
      (∃ b : Bench Unit, Concludes 100 (Replay.upTo 100 gappy) b ∧
        b.IsEnd (Replay.test (fun _ _ => pure false) .reception 100 false 7 gappy w)) ∧
      counters (Replay.upTo 100 gappy) = [1, 1, 4] ∧
      (stages [1, 1, 4]).map report = ["1 0 0\n", "1 0 1\n", "4 2 1\n"] ∧ ¬ Gapless [1, 1, 4] := by
  have fresh : (World.plain () : World Unit Unit).Fresh := World.fresh_ofChance _ _ _ _
  have read : counters (Replay.upTo 100 gappy) = [1, 1, 4] := by
    rw [upTo_gappy]
    decide +kernel
  have writable : Numeral.isWritable (endTime 100 (Replay.upTo 100 gappy)) = true := by
    rw [upTo_gappy]
    decide +kernel
  have legible : Legible (counters (Replay.upTo 100 gappy)) := by
    rw [read]
    exact ⟨by decide +kernel, by decide +kernel⟩
  have enough : gappy.length + 2 ≤ 7 := by decide
  exact ⟨fresh, by decide, writable, legible, enough,
    reception_replay (fun _ _ => pure false) false fresh (by decide) gappy writable legible enough,
    read, by decide +kernel, by decide +kernel⟩

end Replay

end Tally

end MoteTrial
