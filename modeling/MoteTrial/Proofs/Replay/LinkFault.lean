import MoteTrial.Proofs.Replay.RecordReplay

/-! # What the link-fault script makes of a log

The verdict on a log is read off its lines in the order of the replay: they are scanned up to the line
that ends the test, which is one with the keyword that it is done, or one that asks for a change of the
link before both ends of it are announced. `link_fault_replay` shows that a replay ends in just this way.
-/

namespace MoteTrial

open SimM LogFile

namespace Scan

/-- Whether a line tells that the test is done. -/
def isDone (r : Record) : Bool := Text.contains r.msg Config.standard.keywordDone

/-- The end of the link that a line announces. -/
def announced? (r : Record) : Option Endpoint :=
  if Message.classify r.msg = .started then Message.startedEndpoint? Config.standard r.msg else none

/-- The mote that was the last to announce an end of the link. -/
def announcer? (past : List Record) (endpoint : Endpoint) : Option Int :=
  (past.reverse.find? fun r => announced? r = some endpoint).map (·.mote)

/-- The change of the link that a line asks for. -/
def requested? (r : Record) : Option Change :=
  match Message.classify r.msg with
  | .deteriorate => some .deteriorate
  | .improve => some .improve
  | _ => none

/-- The keyword that asks for a change. -/
def keyword : Change → String
  | .deteriorate => Config.standard.keywordDeteriorate
  | .improve => Config.standard.keywordImprove

end Scan

namespace Stage

open Scan

/-- The change that a line makes to the link between the motes that announced its ends. -/
def change? (s : Stage Record) : Option Mutation :=
  match requested? s.here, announcer? s.past .first, announcer? s.past .third with
  | some kind, some first, some third => some ⟨s.here.time, kind, first, third⟩
  | _, _, _ => none

/-- What a line adds to the log of the test. -/
def copy? (s : Stage Record) : Option String :=
  if Message.classify s.here.msg = .other then some (s.here.msg ++ "\n") else none

/-- Whether a line asks for a change before both ends of the link are announced. -/
def isUnbound (s : Stage Record) : Bool :=
  (requested? s.here).isSome &&
    ((announcer? s.past .first).isNone || (announcer? s.past .third).isNone)

/-- Whether a line ends the test. -/
def ends (s : Stage Record) : Bool := isDone s.here || s.isUnbound

/-- The motes that a line finds at the ends of the link have identifiers that can be written, if it asks
for a change. -/
def Legible (s : Stage Record) : Prop :=
  (requested? s.here).isSome = true →
    ∀ id ∈ (announcer? s.past .first).toList ++ (announcer? s.past .third).toList,
      Numeral.isWritable id = true

instance : DecidablePred Legible := fun _ => inferInstanceAs (Decidable (_ → ∀ id ∈ _, _))

end Stage

namespace Scan

/-- The line that ends the test. -/
def ending? (records : List Record) : Option (Stage Record) := (stages records).find? Stage.ends

/-- The lines before it. -/
def scanned (records : List Record) : List (Stage Record) := (stages records).takeWhile fun s => !s.ends

/-- The changes that a log makes to the link. -/
def changes (records : List Record) : List Mutation := (scanned records).filterMap Stage.change?

/-- The lines that a log leaves in the log of the test. -/
def copied (records : List Record) : List String := (scanned records).filterMap Stage.copy?

/-- The time at which the test ends. -/
def endTime (timeout : Int) (records : List Record) : Int :=
  ((ending? records).map (·.here.time)).getD timeout

/-- How a test with the link-fault script ends: the log and the changes are those of the lines before
the end. The test is passed at the line that tells that it is done; it fails at a line that asks for a
change too early, with a failure of the script; else it fails at the deadline. -/
structure Concludes {κ : Type} (timeout : Int) (records : List Record) (b : Bench κ) : Prop where
  lines : b.host.log.lines.toList = copied records
  mutations : b.mutations.toList = changes records
  now : b.now = endTime timeout records
  verdict : match ending? records with
    | none => b.host.error = none ∧ b.host.log.verdict = some .failed ∧ b.host.timedOut = true ∧
        b.host.log.reason = "no '" ++ Config.standard.keywordDone ++ "' within " ++
          Numeral.decimal timeout ++ "ms"
    | some s =>
      if isDone s.here then b.host.error = none ∧ b.host.log.verdict = some .passed
      else b.host.log.verdict = some .failed ∧ ∃ kind, requested? s.here = some kind ∧
        b.host.error = some (.unboundEndpoint (keyword kind) (announcer? s.past .first)
          (announcer? s.past .third))

section Stages

variable {records : List Record}

theorem announcer?_append (xs : List Record) (r : Record) (endpoint : Endpoint) :
    announcer? (xs ++ [r]) endpoint =
      if announced? r = some endpoint then some r.mote else announcer? xs endpoint := by
  unfold announcer?
  rw [List.reverse_append, List.reverse_singleton, List.singleton_append, List.find?_cons]
  by_cases announces : announced? r = some endpoint
  · simp [announces]
  · simp [announces]

theorem isDone_iff (r : Record) : isDone r = true ↔ Message.classify r.msg = .done := by
  unfold isDone Message.classify Message.keywords
  simp only [List.find?_cons, List.find?_nil]
  cases Text.contains r.msg Config.standard.keywordDone with
  | true => simp
  | false =>
    cases Text.contains r.msg Config.standard.keywordDeteriorate with
    | true => simp
    | false =>
      cases Text.contains r.msg Config.standard.keywordImprove with
      | true => simp
      | false =>
        cases Text.contains r.msg Config.standard.keywordStarted with
        | true => simp
        | false => simp

theorem ending?_append (xs : List Record) (r : Record) :
    ending? (xs ++ [r]) = (ending? xs).or (if (Stage.mk xs r).ends then some ⟨xs, r⟩ else none) := by
  unfold ending?
  rw [stages_append, List.find?_append, List.find?_singleton]

theorem scanned_of_ending?_eq_none (going : ending? records = none) :
    scanned records = stages records :=
  List.takeWhile_eq_self_iff.mpr (by simpa [ending?] using going)

/-- The log up to the line that ends the test. -/
theorem exists_of_ending?_eq_some {s : Stage Record} (ended : ending? records = some s) :
    ∃ rest, records = s.past ++ s.here :: rest ∧ ending? s.past = none ∧ s.ends = true ∧
      scanned records = stages s.past := by
  induction records using List.reverseRecOn with
  | nil => cases ended
  | append_singleton xs r ih =>
    rw [ending?_append] at ended
    cases earlier : ending? xs with
    | some e =>
      rw [earlier, Option.some_or] at ended
      obtain ⟨rest, shape, going, ends, kept⟩ := ih (earlier.trans ended)
      refine ⟨rest ++ [r], by rw [shape]; simp, going, ends, ?_⟩
      rw [← kept]
      have short : (scanned xs).length ≠ (stages xs).length := by
        rw [kept, length_stages, length_stages, shape, List.length_append, List.length_cons]
        omega
      unfold scanned at short ⊢
      rw [stages_append, List.takeWhile_append, if_neg short]
    | none =>
      rw [earlier, Option.none_or] at ended
      split at ended
      · rename_i ends
        obtain rfl := Option.some.inj ended
        refine ⟨[], rfl, earlier, ends, ?_⟩
        have all := scanned_of_ending?_eq_none earlier
        unfold scanned at all ⊢
        rw [stages_append, List.takeWhile_append, if_pos (congrArg List.length all)]
        simp [ends]
      · cases ended

end Stages

section Test

variable {κ : Type} {timeout : Int} {past records : List Record} {r : Record} {b : Bench κ}

/-- A test that goes on after the lines `past`. -/
structure Underway (timeout : Int) (past : List Record) (b : Bench κ) : Prop where
  script : ∃ state : MoteTrial.LinkFault, b.host.script = .linkFault timeout true state ∧
    state.first = announcer? past .first ∧ state.third = announcer? past .third
  listening : b.host.finished = false
  undecided : b.host.log.verdict = none
  intact : b.host.error = none
  lines : b.host.log.lines.toList = (stages past).filterMap Stage.copy?
  mutations : b.mutations.toList = (stages past).filterMap Stage.change?

theorem underway_start (timeout : Int) (echo : Bool) :
    Underway timeout [] (ScriptName.linkFault.bench timeout echo : Bench κ) :=
  ⟨⟨{}, rfl, rfl, rfl⟩, rfl, rfl, rfl, rfl, rfl⟩

theorem answer_linkFault {host : Host κ} {state : MoteTrial.LinkFault}
    (script : host.script = .linkFault timeout true state) (mote : Int) (msg : String) :
    host.answer mote msg = (host.facing mote msg).answerLinkFault timeout state mote msg := by
  simp only [Host.answer, script]

theorem announcer?_unannounced (unannounced : announced? r = none) (endpoint : Endpoint) :
    announcer? (past ++ [r]) endpoint = announcer? past endpoint := by
  rw [announcer?_append, unannounced, if_neg nofun]

/-- A line that asks for a change and is not too early finds both ends of the link. -/
theorem exists_ends_of_bound {kind : Change} (asked : requested? r = some kind)
    (bound : (Stage.mk past r).isUnbound = false) :
    ∃ a c, announcer? past .first = some a ∧ announcer? past .third = some c := by
  unfold Stage.isUnbound at bound
  rw [asked] at bound
  cases first : announcer? past .first with
  | none => simp [first] at bound
  | some a =>
    cases third : announcer? past .third with
    | none => simp [first, third] at bound
    | some c => exact ⟨a, c, rfl, rfl⟩

/-- Lines that ask for a change are handled alike, and neither announce an end nor are copied. -/
theorem answerLinkFault_of_requested {kind : Change} (asked : requested? r = some kind)
    (host : Host κ) (timeout : Int) (state : MoteTrial.LinkFault) :
    announced? r = none ∧ (∀ past, (Stage.mk past r).copy? = none) ∧
      ∃ next : MoteTrial.LinkFault, host.answerLinkFault timeout state r.mote r.msg =
          host.answerChange kind (keyword kind) timeout state next ∧
        next.first = state.first ∧ next.third = state.third := by
  unfold requested? at asked
  unfold announced? Stage.copy? Host.answerLinkFault
  cases means : Message.classify r.msg with
  | deteriorate =>
    rw [means] at asked
    obtain rfl := Option.some.inj asked
    exact ⟨rfl, fun _ => if_neg (by simp [means]), _, rfl, rfl, rfl⟩
  | improve =>
    rw [means] at asked
    obtain rfl := Option.some.inj asked
    exact ⟨rfl, fun _ => if_neg (by simp [means]), _, rfl, rfl, rfl⟩
  | done =>
    rw [means] at asked
    cases asked
  | started =>
    rw [means] at asked
    cases asked
  | other =>
    rw [means] at asked
    cases asked

/-- A line that changes the link. -/
theorem Underway.hear_change {kind : Change} (underway : Underway timeout past b)
    (asked : requested? r = some kind) (bound : (Stage.mk past r).isUnbound = false)
    (legible : (Stage.mk past r).Legible) : Underway timeout (past ++ [r]) (b.hear r) := by
  obtain ⟨state, script, first, third⟩ := underway.script
  obtain ⟨unannounced, uncopied, next, answered, sameFirst, sameThird⟩ :=
    answerLinkFault_of_requested asked (b.host.facing r.mote r.msg) timeout state
  obtain ⟨a, c, foundFirst, foundThird⟩ := exists_ends_of_bound asked bound
  have endpoints : state.endpoints (keyword kind) = .ok (a, c) :=
    LinkFault.endpoints_eq_ok_iff.mpr ⟨first.trans foundFirst, third.trans foundThird⟩
  have writable : (Numeral.isWritable a && Numeral.isWritable c) = true := by
    have asks : (requested? r).isSome = true := by rw [asked]; rfl
    rw [legible asks a (by simp [foundFirst]), legible asks c (by simp [foundThird])]
    rfl
  have changed : (Stage.mk past r).change? = some ⟨r.time, kind, a, c⟩ := by
    simp only [Stage.change?, asked, foundFirst, foundThird]
  rw [Bench.hear_listening underway.listening, answer_linkFault script, answered]
  simp only [Host.answerChange, endpoints, writable, ↓reduceIte]
  refine ⟨⟨next, rfl, ?_, ?_⟩, underway.listening, underway.undecided, underway.intact, ?_, ?_⟩
  · rw [announcer?_unannounced unannounced, sameFirst, first]
  · rw [announcer?_unannounced unannounced, sameThird, third]
  · rw [filterMap_stages_append, uncopied, Option.toList_none, List.append_nil]
    exact underway.lines
  · rw [filterMap_stages_append, changed, ← underway.mutations]
    exact Array.toList_push

/-- A line that announces an end of the link, or would, and changes nothing else. -/
theorem Underway.hear_started (underway : Underway timeout past b)
    (means : Message.classify r.msg = .started) : Underway timeout (past ++ [r]) (b.hear r) := by
  obtain ⟨state, script, first, third⟩ := underway.script
  have announced : announced? r = Message.startedEndpoint? Config.standard r.msg := by
    simp [announced?, means]
  have lines : b.host.log.lines.toList = (stages (past ++ [r])).filterMap Stage.copy? := by
    rw [filterMap_stages_append, underway.lines]
    simp [Stage.copy?, means]
  have mutations : b.mutations.toList = (stages (past ++ [r])).filterMap Stage.change? := by
    rw [filterMap_stages_append, underway.mutations]
    simp [Stage.change?, requested?, means]
  rw [Bench.hear_listening underway.listening, answer_linkFault script]
  simp only [Host.answerLinkFault, means]
  cases found : Message.startedEndpoint? Config.standard r.msg with
  | none =>
    refine ⟨⟨state, script, ?_, ?_⟩, underway.listening, underway.undecided, underway.intact, lines,
      mutations⟩
    · rw [announcer?_unannounced (announced.trans found), first]
    · rw [announcer?_unannounced (announced.trans found), third]
  | some endpoint =>
    refine ⟨⟨state.bind endpoint r.mote, rfl, ?_, ?_⟩, underway.listening, underway.undecided,
      underway.intact, lines, mutations⟩
    · rw [announcer?_append, announced.trans found, ← first]
      cases endpoint <;> rfl
    · rw [announcer?_append, announced.trans found, ← third]
      cases endpoint <;> rfl

/-- A line that is copied to the log of the test. -/
theorem Underway.hear_other (underway : Underway timeout past b)
    (means : Message.classify r.msg = .other) : Underway timeout (past ++ [r]) (b.hear r) := by
  obtain ⟨state, script, first, third⟩ := underway.script
  have copied : (Stage.mk past r).copy? = some (r.msg ++ "\n") := by simp [Stage.copy?, means]
  have unchanging : (Stage.mk past r).change? = none := by simp [Stage.change?, requested?, means]
  have unannounced : announced? r = none := by simp [announced?, means]
  rw [Bench.hear_listening underway.listening, answer_linkFault script]
  simp only [Host.answerLinkFault, means]
  refine ⟨⟨_, rfl, ?_, ?_⟩, underway.listening, underway.undecided, underway.intact, ?_, ?_⟩
  · rw [announcer?_unannounced unannounced, ← first]
  · rw [announcer?_unannounced unannounced, ← third]
  · rw [filterMap_stages_append, copied, ← underway.lines]
    exact Array.toList_push
  · rw [filterMap_stages_append, unchanging, Option.toList_none, List.append_nil]
    exact underway.mutations

/-- A line from which the test goes on. -/
theorem Underway.hear (underway : Underway timeout past b) (going : (Stage.mk past r).ends = false)
    (legible : (Stage.mk past r).Legible) : Underway timeout (past ++ [r]) (b.hear r) := by
  obtain ⟨undone, bound⟩ := Bool.or_eq_false_iff.mp going
  cases means : Message.classify r.msg with
  | done =>
    rw [(isDone_iff r).mpr means] at undone
    cases undone
  | deteriorate => exact underway.hear_change (by simp only [requested?, means]; rfl) bound legible
  | improve => exact underway.hear_change (by simp only [requested?, means]; rfl) bound legible
  | started => exact underway.hear_started means
  | other => exact underway.hear_other means

/-- A test goes on as long as no line ends it. -/
theorem underway_hearAll (timeout : Int) (echo : Bool) (going : ending? records = none)
    (legible : ∀ s ∈ stages records, s.Legible) :
    Underway timeout records ((ScriptName.linkFault.bench timeout echo : Bench κ).hearAll records) := by
  induction records using List.reverseRecOn with
  | nil => exact underway_start timeout echo
  | append_singleton xs r ih =>
    rw [ending?_append] at going
    obtain ⟨earlier, last⟩ := Option.or_eq_none_iff.mp going
    rw [stages_append] at legible
    rw [Bench.hearAll_append]
    refine (ih earlier fun s member => legible s (List.mem_append_left _ member)).hear ?_ ?_
    · simpa using last
    · exact legible _ (List.mem_append_right _ (List.mem_singleton_self _))

/-- A line that asks for a change too early fails the script. -/
theorem Underway.hear_unbound {kind : Change} (underway : Underway timeout past b)
    (asked : requested? r = some kind) (unbound : (Stage.mk past r).isUnbound = true)
    (legible : (Stage.mk past r).Legible) :
    b.hear r =
      { host := (b.host.facing r.mote r.msg).crashed
          (.unboundEndpoint (keyword kind) (announcer? past .first) (announcer? past .third))
        mutations := b.mutations
        now := r.time } := by
  obtain ⟨state, script, first, third⟩ := underway.script
  obtain ⟨_, _, next, answered, _⟩ :=
    answerLinkFault_of_requested asked (b.host.facing r.mote r.msg) timeout state
  have refused : state.endpoints (keyword kind) = .error
      (.unboundEndpoint (keyword kind) (announcer? past .first) (announcer? past .third)) := by
    unfold LinkFault.endpoints
    rw [first, third]
    split
    · rename_i a c foundFirst foundThird
      simp [Stage.isUnbound, foundFirst, foundThird] at unbound
    · rfl
  have settled : (Failure.unboundEndpoint (keyword kind) (announcer? past .first)
      (announcer? past .third)).settled =
      .unboundEndpoint (keyword kind) (announcer? past .first) (announcer? past .third) := by
    have asks : (requested? r).isSome = true := by rw [asked]; rfl
    exact if_pos (List.all_eq_true.mpr (legible asks))
  rw [Bench.hear_listening underway.listening, answer_linkFault script, answered]
  simp only [Host.answerChange, refused, settled]
  rfl

/-- A test that is done, or whose script fails, is concluded. -/
theorem Underway.concludes_at_line (underway : Underway timeout past b)
    (ends : (Stage.mk past r).ends = true) (legible : (Stage.mk past r).Legible)
    (ended : ending? records = some ⟨past, r⟩) (kept : scanned records = stages past) :
    (b.hear r).host.finished = true ∧ Concludes timeout records (b.hear r) := by
  have lines : copied records = (stages past).filterMap Stage.copy? := by rw [copied, kept]
  have mutations : changes records = (stages past).filterMap Stage.change? := by rw [changes, kept]
  have time : endTime timeout records = r.time := by rw [endTime, ended]; rfl
  rw [← underway.lines] at lines
  rw [← underway.mutations] at mutations
  cases done : isDone r with
  | true =>
    obtain ⟨state, script, _⟩ := underway.script
    rw [Bench.hear_listening underway.listening, answer_linkFault script]
    simp only [Host.answerLinkFault, (isDone_iff r).mp done]
    refine ⟨rfl, lines.symm, mutations.symm, time.symm, ?_⟩
    rw [ended]
    simp only [done, ↓reduceIte]
    exact ⟨underway.intact, rfl⟩
  | false =>
    have unbound : (Stage.mk past r).isUnbound = true := by simpa [Stage.ends, done] using ends
    obtain ⟨kind, asked⟩ := Option.isSome_iff_exists.mp (Bool.and_eq_true_iff.mp unbound).1
    rw [underway.hear_unbound asked unbound legible]
    refine ⟨rfl, ?_, mutations.symm, time.symm, ?_⟩
    · rw [lines]
      exact congrArg Array.toList (TestLog.lines_failed _ _)
    · rw [ended]
      simp only [done, Bool.false_eq_true, ↓reduceIte]
      refine ⟨?_, kind, asked, rfl⟩
      exact congrArg TestLog.verdict (TestLog.failed_of_undecided underway.undecided _)

/-- A test that no line ends is concluded at the deadline. -/
theorem Underway.concludes_at_deadline (underway : Underway timeout records b)
    (going : ending? records = none) : Concludes timeout records (b.expire timeout) := by
  obtain ⟨state, script, _⟩ := underway.script
  have kept := scanned_of_ending?_eq_none going
  rw [Bench.expire, Host.expired_linkFault script underway.undecided]
  refine ⟨?_, ?_, ?_, ?_⟩
  · rw [copied, kept]
    exact underway.lines
  · rw [changes, kept]
    exact underway.mutations
  · rw [endTime, going]
    rfl
  · rw [going]
    exact ⟨underway.intact, rfl, rfl, rfl⟩

/-- The test ends as the scan of its lines tells. -/
theorem concludes_outcome (timeout : Int) (echo : Bool)
    (legible : ∀ s ∈ scanned records ++ (ending? records).toList, s.Legible) :
    Concludes timeout records
      ((ScriptName.linkFault.bench timeout echo : Bench κ).outcome timeout records) := by
  cases ended : ending? records with
  | none =>
    rw [ended, Option.toList_none, List.append_nil, scanned_of_ending?_eq_none ended] at legible
    have underway := underway_hearAll (κ := κ) timeout echo ended legible
    rw [Bench.outcome_listening underway.listening]
    exact underway.concludes_at_deadline ended
  | some s =>
    obtain ⟨rest, shape, going, ends, kept⟩ := exists_of_ending?_eq_some ended
    rw [ended, kept] at legible
    have before := underway_hearAll (κ := κ) timeout echo going fun s member =>
      legible s (List.mem_append_left _ member)
    obtain ⟨finished, concludes⟩ := before.concludes_at_line ends
      (legible s (List.mem_append_right _ (List.mem_singleton_self s))) ended kept
    rw [← Bench.outcome_ended finished rest, ← shape] at concludes
    exact concludes

end Test

section Replay

variable {κ μ : Type} {timeout : Int} {w : World κ μ} {fuel : Nat}

/-- A replay to the link-fault script ends as the scan of its lines, up to the deadline, tells, if the
time of the end and the motes at the ends of the link can be written; and so does the replay of a log
that is rearranged without changing the order of the lines of one time. -/
theorem link_fault_replay (act : Behaviour κ μ) (echo : Bool) (fresh : w.Fresh) (nonneg : 0 ≤ timeout)
    (records : List Record)
    (writable : Numeral.isWritable (endTime timeout (Replay.upTo timeout records)) = true)
    (legible : ∀ s ∈ scanned (Replay.upTo timeout records) ++
      (ending? (Replay.upTo timeout records)).toList, s.Legible)
    (enough : records.length + 2 ≤ fuel) :
    (∃ b : Bench κ, Concludes timeout (Replay.upTo timeout records) b ∧
      b.IsEnd (Replay.test act .linkFault timeout echo fuel records w)) ∧
    ∀ records', (∀ time, (records'.map Record.onClock).filter (fun r => r.time = time) =
        (records.map Record.onClock).filter fun r => r.time = time) →
      Alike (Replay.test act .linkFault timeout echo fuel records w)
        (Replay.test act .linkFault timeout echo fuel records' w) := by
  have concludes := concludes_outcome (κ := κ) timeout echo legible
  rw [← concludes.now] at writable
  have ended := replay_ends act .linkFault echo fresh nonneg records writable enough
  refine ⟨⟨_, concludes, ended⟩, ?_⟩
  intro records' same
  have sorted : Replay.sorted records' = Replay.sorted records := Replay.sorted_eq_of_filter_eq same
  have upTo : Replay.upTo timeout records' = Replay.upTo timeout records := by
    rw [Replay.upTo, sorted, Replay.upTo]
  have length : records'.length = records.length := by
    rw [← Replay.length_sorted records', sorted, Replay.length_sorted records]
  rw [← upTo] at writable
  have ended' := replay_ends act .linkFault echo fresh nonneg records' writable
    (show records'.length + 2 ≤ fuel by omega)
  rw [upTo] at ended'
  exact ended.alike ended'

/-- A log that is not in order, with a line before the start, one at the deadline and one after it. -/
def disorderly : List Record :=
  [⟨100, 3, "done"⟩, ⟨40, 3, "3 started"⟩, ⟨-5, 1, "1 started"⟩, ⟨60, 3, "at 1 third"⟩,
    ⟨40, 2, "hello"⟩, ⟨101, 3, "at 2 thirds"⟩]

theorem upTo_disorderly : Replay.upTo 100 disorderly =
    [⟨0, 1, "1 started"⟩, ⟨40, 3, "3 started"⟩, ⟨40, 2, "hello"⟩, ⟨60, 3, "at 1 third"⟩,
      ⟨100, 3, "done"⟩] := by
  have clocked : disorderly.map Record.onClock = [⟨100, 3, "done"⟩, ⟨40, 3, "3 started"⟩,
      ⟨0, 1, "1 started"⟩, ⟨60, 3, "at 1 third"⟩, ⟨40, 2, "hello"⟩, ⟨101, 3, "at 2 thirds"⟩] := by decide
  rw [Replay.upTo, Replay.sorted, clocked]
  simp [List.mergeSort]

theorem link_fault_replay_disorderly :
    let w : World Unit Unit := World.plain ()
    w.Fresh ∧ (0 : Int) ≤ 100 ∧
      Numeral.isWritable (endTime 100 (Replay.upTo 100 disorderly)) = true ∧
      (∀ s ∈ scanned (Replay.upTo 100 disorderly) ++ (ending? (Replay.upTo 100 disorderly)).toList,
        s.Legible) ∧ disorderly.length + 2 ≤ 8 ∧
      (∃ b : Bench Unit, Concludes 100 (Replay.upTo 100 disorderly) b ∧
        b.IsEnd (Replay.test (fun _ _ => pure false) .linkFault 100 false 8 disorderly w)) ∧
      changes (Replay.upTo 100 disorderly) = [⟨60, .deteriorate, 1, 3⟩] ∧
      copied (Replay.upTo 100 disorderly) = ["hello\n"] ∧
      (ending? (Replay.upTo 100 disorderly)).map (·.here) = some ⟨100, 3, "done"⟩ := by
  have fresh : (World.plain () : World Unit Unit).Fresh := World.fresh_ofChance _ _ _ _
  have writable : Numeral.isWritable (endTime 100 (Replay.upTo 100 disorderly)) = true := by
    rw [upTo_disorderly]
    decide +kernel
  have legible : ∀ s ∈ scanned (Replay.upTo 100 disorderly) ++
      (ending? (Replay.upTo 100 disorderly)).toList, s.Legible := by
    rw [upTo_disorderly]
    decide +kernel
  have enough : disorderly.length + 2 ≤ 8 := by decide
  obtain ⟨ended, _⟩ := link_fault_replay (fun _ _ => pure false) false fresh (by decide) disorderly
    writable legible enough
  refine ⟨fresh, by decide, writable, legible, enough, ended, ?_, ?_, ?_⟩
  · rw [upTo_disorderly]
    decide +kernel
  · rw [upTo_disorderly]
    decide +kernel
  · rw [upTo_disorderly]
    decide +kernel

/-- A deadline that is too long to be written, or a mote at an end of the link whose identifier is, and
the test does not return. -/
theorem overlong_replay_unreturned :
    let overlong : Int := ((10 ^ Numeral.digitLimit : Nat) : Int)
    let log : List Record := [⟨0, overlong, "1 started"⟩, ⟨1, 3, "3 started"⟩, ⟨2, 3, "at 1 third"⟩]
    let w : World Unit Unit := World.plain ()
    w.Fresh ∧ ending? [] = none ∧
      failure? (Replay.test (fun _ _ => pure false) .linkFault overlong false 2 []) w =
        some .unwritableInteger ∧
      Replay.upTo 10 log = log ∧ ending? log = none ∧
      failure? (Replay.test (fun _ _ => pure false) .linkFault 10 false 5 log) w =
        some .unwritableInteger := by
  refine ⟨World.fresh_ofChance _ _ _ _, rfl, ?_, ?_, ?_, ?_⟩
  · decide +kernel
  · exact Replay.upTo_eq_self (by decide) (by decide)
  · decide +kernel
  · decide +kernel

end Replay

end Scan

end MoteTrial
