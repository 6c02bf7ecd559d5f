import MoteTrial.Proofs.Firmware.Journal

/-! # The acts of a client

Whatever happens in between, one expiry of its timer takes a client through a `Turn`: it reports that it
is done, or it sends its next counter, after a report if one is due. Several timers of one client may run
at a time; they all work on its one counter, so that its acts are those of one chain of turns. `Ledger`
says what such acts look like, unless a listener has failed at a report.
-/

namespace MoteTrial.Protocol

/-- What a client does when its timer expires. -/
inductive Act where
  /-- It reports a milestone. -/
  | reach (milestone : Milestone)
  /-- It tries to deliver a counter. -/
  | attempt (counter : Nat)
  /-- It has its server receive a counter, directly or by way of a relay. This may fail. -/
  | receive (counter : Nat) (returned : Bool)
  /-- It reports that all counters have been sent. -/
  | done
  /-- It makes a report at which a listener fails. -/
  | unheard (report : String)
  deriving DecidableEq, Repr

/-- The call of the firmware in which a client with a server acts. -/
def Act.call (config : Config) (server : Int) : Act → Call
  | .reach milestone => .log (milestone.line config) true
  | .attempt counter => .attempt counter
  | .receive counter returned => .hand server (.number counter) returned
  | .done => .log config.keywordDone true
  | .unheard report => .log report false

/-- The acts with which a counter is delivered, or tried to be. If its server receives the counter,
`received` tells whether this returned. -/
def delivery (counter : Nat) (received : Option Bool) : List Act :=
  .attempt counter :: (received.map (Act.receive counter)).toList

/-- The acts with which a client sends its next counter. -/
def sending (c : Client) (received : Option Bool) : List Act :=
  (c.milestone?.map Act.reach).toList ++ delivery (c.counter + 1) received

/-- A client that has sent its next counter. -/
def sender (c : Client) (received : Option Bool) : Client :=
  if received = some true then c.advance.confirm else c.advance

/-- One expiry of the timer of a client, with its acts. -/
inductive Turn : Client → List Act → Client → Prop where
  | ends {c : Client} (all : c.exhausted = true) : Turn c [.done] c.finish
  | sends {c : Client} (more : c.exhausted = false) (received : Option Bool) :
    Turn c (sending c received) (sender c received)
  | breaks_off {c : Client} (report : String) : Turn c [.unheard report] c

/-- The counters that a client has tried to send, in order. -/
def attempts (acts : List Act) : List Nat :=
  acts.filterMap fun
    | .attempt n => some n
    | _ => none

/-- The counters that a client has had its server receive, in order. -/
def receptions (acts : List Act) : List Nat :=
  acts.filterMap fun
    | .receive n _ => some n
    | _ => none

/-- The counters whose reception has returned, in order. -/
def confirmations (acts : List Act) : List Nat :=
  acts.filterMap fun
    | .receive n true => some n
    | _ => none

/-- The number of attempts, beside some that were made before, after which an act is done, for each time
that it is. -/
def marks (act : Act) : Nat → List Act → List Nat
  | _, [] => []
  | made, a :: rest =>
    let later := marks act (made + (attempts [a]).length) rest
    if a = act then made :: later else later

theorem attempts_append (acts more : List Act) :
    attempts (acts ++ more) = attempts acts ++ attempts more := List.filterMap_append

theorem receptions_append (acts more : List Act) :
    receptions (acts ++ more) = receptions acts ++ receptions more := List.filterMap_append

theorem confirmations_append (acts more : List Act) :
    confirmations (acts ++ more) = confirmations acts ++ confirmations more := List.filterMap_append

theorem marks_append (act : Act) (made : Nat) (acts more : List Act) :
    marks act made (acts ++ more) =
      marks act made acts ++ marks act (made + (attempts acts).length) more := by
  induction acts generalizing made with
  | nil => rfl
  | cons a rest ih =>
    have count : (attempts (a :: rest)).length = (attempts [a]).length + (attempts rest).length := by
      rw [← List.length_append, ← attempts_append]
      rfl
    simp only [List.cons_append, marks, ih, count, Nat.add_assoc]
    split <;> rfl

theorem marks_eq_nil {act : Act} {acts : List Act} (absent : act ∉ acts) (made : Nat) :
    marks act made acts = [] := by
  induction acts generalizing made with
  | nil => rfl
  | cons a rest ih =>
    rw [List.mem_cons, not_or] at absent
    rw [marks, if_neg fun same => absent.1 same.symm]
    exact ih absent.2 _

theorem marks_append_absent {act : Act} {more : List Act} (absent : act ∉ more) (made : Nat)
    (acts : List Act) : marks act made (acts ++ more) = marks act made acts := by
  rw [marks_append, marks_eq_nil absent, List.append_nil]

/-- What the acts of a client with a limit that is not negative look like. -/
structure Ledger (c : Client) (acts : List Act) : Prop where
  sent : c.sent = c.counter
  within : (c.counter : Int) ≤ c.limit
  /-- It has tried to send the counters from one up to its own, each once and in this order. -/
  attempts : attempts acts = List.range' 1 c.counter
  /-- It has counted the receptions that have returned. -/
  delivered : c.delivered = (confirmations acts).length
  /-- Each counter is received at most once, whichever way it takes. -/
  received : (receptions acts).Sublist (List.range' 1 c.counter)
  /-- A counter is received after it is sent and before the next one is. -/
  prompt : ∀ n returned, ∀ made ∈ marks (.receive n returned) 0 acts, made = n
  /-- The first third is reported once, just before the first counter beyond it is sent. -/
  oneThird : marks (.reach .oneThird) 0 acts =
    if c.reports = true ∧ 3 ≤ c.limit ∧ c.limit / 3 < c.counter then [(c.limit / 3).toNat] else []
  twoThirds : marks (.reach .twoThirds) 0 acts =
    if c.reports = true ∧ 3 ≤ c.limit ∧ 2 * (c.limit / 3) < c.counter then
      [(2 * (c.limit / 3)).toNat] else []
  /-- The end is reported after the last counter only, if perhaps more than once. -/
  done : ∀ made ∈ marks .done 0 acts, (made : Int) = c.limit
  finished : c.finished = true ↔ .done ∈ acts

section Ledger

variable {c c' : Client} {acts new : List Act}

/-- A client that has just been installed. -/
theorem Ledger.installed (route : Route) {limit : Int} (reports : Bool) (nonneg : 0 ≤ limit) :
    Ledger { route, limit, reports } [] := by
  constructor
  · rfl
  · exact nonneg
  · rfl
  · rfl
  · exact .slnil
  · nofun
  · rw [if_neg]
    · rfl
    · simp only
      omega
  · rw [if_neg]
    · rfl
    · simp only
      omega
  · nofun
  · simp

/-- When a client reports a milestone, and which: neither is reported for a limit below three. -/
theorem milestone?_eq (c : Client) : c.milestone? =
    if c.reports = true ∧ 3 ≤ c.limit ∧ (c.counter : Int) = c.limit / 3 then some .oneThird
    else if c.reports = true ∧ 3 ≤ c.limit ∧ (c.counter : Int) = 2 * (c.limit / 3) then
      some .twoThirds
    else none := by
  have positive : 0 < c.limit / 3 ↔ 3 ≤ c.limit := by omega
  unfold Client.milestone? Client.third
  cases c.reports with
  | false => simp only [Bool.false_and, Bool.false_eq_true, ↓reduceIte, false_and]
  | true =>
    by_cases many : 3 ≤ c.limit
    · simp only [positive, many, decide_true, Bool.and_self, ↓reduceIte, true_and]
    · simp only [positive, many, decide_false, Bool.and_false, Bool.false_eq_true, ↓reduceIte,
        false_and, and_false]

theorem milestone?_eq_oneThird : c.milestone? = some .oneThird ↔
    c.reports = true ∧ 3 ≤ c.limit ∧ (c.counter : Int) = c.limit / 3 := by
  rw [milestone?_eq]
  split
  · rename_i due
    exact iff_of_true rfl due
  · rename_i early
    refine iff_of_false ?_ early
    split <;> nofun

theorem milestone?_eq_twoThirds : c.milestone? = some .twoThirds ↔
    c.reports = true ∧ 3 ≤ c.limit ∧ (c.counter : Int) = 2 * (c.limit / 3) := by
  rw [milestone?_eq]
  split
  · rename_i due
    refine iff_of_false nofun ?_
    rintro ⟨_, more, twice⟩
    omega
  · split
    · rename_i due
      exact iff_of_true rfl due
    · rename_i early
      exact iff_of_false nofun early

/-- A milestone is reported as often as its time has come. -/
theorem marks_reach {milestone : Milestone} {time : Int} {allowed : Prop} [Decidable allowed]
    {made : Nat} (due : c.milestone? = some milestone ↔ allowed ∧ (made : Int) = time)
    (before : marks (.reach milestone) 0 acts = if allowed ∧ time < made then [time.toNat] else [])
    {rest : List Act} (absent : .reach milestone ∉ rest) (count : (attempts acts).length = made) :
    marks (.reach milestone) 0 (acts ++ ((c.milestone?.map Act.reach).toList ++ rest)) =
      if allowed ∧ time < (made + 1 : Nat) then [time.toNat] else [] := by
  have reported : marks (.reach milestone) made (c.milestone?.map Act.reach).toList =
      if allowed ∧ (made : Int) = time then [made] else [] := by
    cases reports : c.milestone? with
    | none =>
      rw [reports] at due
      rw [if_neg fun now => nomatch due.mpr now]
      rfl
    | some other =>
      rw [reports, Option.some_inj] at due
      simp only [Option.map_some, Option.toList_some, marks, Act.reach.injEq, due]
  rw [marks_append, marks_append, before, Nat.zero_add, count, reported, marks_eq_nil absent]
  by_cases now : allowed ∧ (made : Int) = time
  · obtain ⟨allowed, rfl⟩ := now
    have past : (made : Int) < (made + 1 : Nat) := by omega
    simp only [allowed, past, Int.lt_irrefl, and_false, and_self, ↓reduceIte, List.nil_append,
      List.append_nil, Int.toNat_natCast]
  · have same : (allowed ∧ time < (made + 1 : Nat)) ↔ allowed ∧ time < made := by
      constructor
      · rintro ⟨allowed, past⟩
        refine ⟨allowed, ?_⟩
        have : (made : Int) ≠ time := fun same => now ⟨allowed, same⟩
        omega
      · rintro ⟨allowed, past⟩
        exact ⟨allowed, by omega⟩
    simp only [now, same, ↓reduceIte, List.append_nil]

theorem attempts_reach (reported : Option Milestone) :
    attempts (reported.map Act.reach).toList = [] := by cases reported <;> rfl

theorem receptions_reach (reported : Option Milestone) :
    receptions (reported.map Act.reach).toList = [] := by cases reported <;> rfl

theorem confirmations_reach (reported : Option Milestone) :
    confirmations (reported.map Act.reach).toList = [] := by cases reported <;> rfl

/-- Before it sends a counter, a client only reports. -/
theorem not_mem_reach {act : Act} (other : ∀ milestone, act ≠ .reach milestone)
    (reported : Option Milestone) : act ∉ (reported.map Act.reach).toList := by
  cases reported with
  | none => exact List.not_mem_nil
  | some milestone => exact fun member => other milestone (List.mem_singleton.mp member)

theorem attempts_sending (c : Client) (received : Option Bool) :
    attempts (sending c received) = [c.counter + 1] := by
  rw [sending, attempts_append, attempts_reach]
  cases received <;> rfl

theorem receptions_sending (c : Client) (received : Option Bool) :
    receptions (sending c received) = if received.isSome then [c.counter + 1] else [] := by
  rw [sending, receptions_append, receptions_reach]
  cases received <;> rfl

theorem confirmations_sending (c : Client) (received : Option Bool) :
    confirmations (sending c received) = if received = some true then [c.counter + 1] else [] := by
  rw [sending, confirmations_append, confirmations_reach]
  cases received with
  | none => rfl
  | some returned => cases returned <;> rfl

/-- A counter is received once it has been sent. -/
theorem marks_receive_sending (c : Client) (received : Option Bool) (n : Nat) (returned : Bool) :
    ∀ made ∈ marks (.receive n returned) c.counter (sending c received), made = n := by
  have silent : .receive n returned ∉ (c.milestone?.map Act.reach).toList := not_mem_reach (by simp) _
  intro made member
  rw [sending, marks_append, marks_eq_nil silent, attempts_reach] at member
  cases received with
  | none => cases member
  | some other =>
    simp only [delivery, Option.map_some, Option.toList_some, marks, reduceCtorEq, ↓reduceIte,
      List.nil_append] at member
    split at member
    · rename_i same
      cases same
      rw [List.mem_singleton.mp member]
      rfl
    · cases member

/-- What a client does to send a counter is not an act of another kind. -/
theorem not_mem_sending {act : Act} (reach : ∀ milestone, act ≠ .reach milestone)
    (attempt : ∀ n, act ≠ .attempt n) (receive : ∀ n returned, act ≠ .receive n returned) (c : Client)
    (received : Option Bool) : act ∉ sending c received := by
  rw [sending, List.mem_append, not_or]
  constructor
  · exact not_mem_reach reach _
  · cases received with
    | none => simp [delivery, attempt]
    | some returned => simp [delivery, attempt, receive]

theorem done_not_mem_sending (c : Client) (received : Option Bool) : .done ∉ sending c received :=
  not_mem_sending (by simp) (by simp) (by simp) c received

section Sender

variable (c : Client) (received : Option Bool)

@[simp] theorem sender_counter : (sender c received).counter = c.counter + 1 := by
  unfold sender
  split <;> rfl

@[simp] theorem sender_sent : (sender c received).sent = c.sent + 1 := by
  unfold sender
  split <;> rfl

@[simp] theorem sender_route : (sender c received).route = c.route := by
  unfold sender
  split <;> rfl

@[simp] theorem sender_limit : (sender c received).limit = c.limit := by
  unfold sender
  split <;> rfl

@[simp] theorem sender_reports : (sender c received).reports = c.reports := by
  unfold sender
  split <;> rfl

@[simp] theorem sender_finished : (sender c received).finished = c.finished := by
  unfold sender
  split <;> rfl

@[simp] theorem sender_delivered :
    (sender c received).delivered = c.delivered + if received = some true then 1 else 0 := by
  unfold sender
  split <;> rfl

end Sender

/-- The acts of a client stay in order as it reports its end. -/
theorem Ledger.ends (ledger : Ledger c acts) (all : c.exhausted = true) :
    Ledger c.finish (acts ++ [.done]) := by
  have count : (Protocol.attempts acts).length = c.counter := by
    rw [ledger.attempts, List.length_range']
  have other {act : Act} (differs : act ≠ .done) : marks act 0 (acts ++ [.done]) = marks act 0 acts :=
    marks_append_absent (fun member => differs (List.mem_singleton.mp member)) 0 acts
  constructor
  · exact ledger.sent
  · exact ledger.within
  · rw [attempts_append, ledger.attempts]
    exact List.append_nil _
  · rw [confirmations_append]
    exact ledger.delivered.trans (congrArg List.length (List.append_nil _).symm)
  · rw [receptions_append]
    exact (List.append_nil _).symm ▸ ledger.received
  · intro n returned
    rw [other (by simp)]
    exact ledger.prompt n returned
  · rw [other (by simp)]
    exact ledger.oneThird
  · rw [other (by simp)]
    exact ledger.twoThirds
  · intro made
    rw [marks_append, List.mem_append, Nat.zero_add, count]
    rintro (before | now)
    · exact ledger.done made before
    · rw [List.mem_singleton.mp now]
      exact of_decide_eq_true all
  · exact iff_of_true rfl (List.mem_append_right _ (List.mem_singleton_self _))

/-- The acts of a client stay in order as it sends its next counter. -/
theorem Ledger.sends (ledger : Ledger c acts) (more : c.exhausted = false) (received : Option Bool) :
    Ledger (sender c received) (acts ++ sending c received) := by
  have count : (Protocol.attempts acts).length = c.counter := by
    rw [ledger.attempts, List.length_range']
  have left : (c.counter : Int) ≠ c.limit := of_decide_eq_false more
  have further : List.range' 1 (c.counter + 1) = List.range' 1 c.counter ++ [c.counter + 1] := by
    rw [List.range'_concat, Nat.one_mul, Nat.add_comm]
  have rest (milestone : Milestone) : .reach milestone ∉ delivery (c.counter + 1) received := by
    cases received <;> simp [delivery]
  constructor
  · rw [sender_sent, sender_counter, ledger.sent]
  · have := ledger.within
    rw [sender_counter, sender_limit]
    omega
  · rw [attempts_append, attempts_sending, ledger.attempts, sender_counter, further]
  · rw [confirmations_append, confirmations_sending, List.length_append, sender_delivered,
      ledger.delivered]
    split <;> rfl
  · rw [receptions_append, receptions_sending, sender_counter, further]
    refine ledger.received.append ?_
    split
    · exact List.Sublist.refl _
    · exact List.nil_sublist _
  · intro n returned made
    rw [marks_append, List.mem_append, Nat.zero_add, count]
    rintro (before | now)
    · exact ledger.prompt n returned made before
    · exact marks_receive_sending c received n returned made now
  · have reported := ledger.oneThird
    simp only [← and_assoc] at reported ⊢
    simp only [sender_counter, sender_limit, sender_reports]
    exact marks_reach (by rw [milestone?_eq_oneThird, and_assoc]) reported (rest _) count
  · have reported := ledger.twoThirds
    simp only [← and_assoc] at reported ⊢
    simp only [sender_counter, sender_limit, sender_reports]
    exact marks_reach (by rw [milestone?_eq_twoThirds, and_assoc]) reported (rest _) count
  · rw [marks_append_absent (done_not_mem_sending c received), sender_limit]
    exact ledger.done
  · rw [sender_finished, ledger.finished, List.mem_append]
    exact ⟨.inl, fun member => member.resolve_right (done_not_mem_sending c received)⟩

/-- The acts of a client stay in order as it takes its turn, unless a report is not heard. -/
theorem Ledger.turn (ledger : Ledger c acts) (turn : Turn c new c')
    (heard : ∀ report, .unheard report ∉ new) : Ledger c' (acts ++ new) := by
  cases turn with
  | ends all => exact ledger.ends all
  | sends more received => exact ledger.sends more received
  | breaks_off report => exact absurd List.mem_cons_self (heard report)

end Ledger

end MoteTrial.Protocol
