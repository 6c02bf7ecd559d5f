import Mathlib.Algebra.Order.BigOperators.Group.List
import Mathlib.Algebra.Order.Ring.Int
import MoteTrial.Proofs.Replay.Reception
import MoteTrial.Proofs.Text.FirmwareLines
import MoteTrial.Proofs.Trace.Bookkeeping
import MoteTrial.Proofs.Trace.Completeness
import MoteTrial.Proofs.Trace.Transparency
import MoteTrial.Trace.Statistics

/-! # Loss statistics of a run

The statistics of a trace take the number of received counters from its rows, the losses from the last
row, and the greatest gap from the gaps of all rows. They agree with the state of the reception script,
since its books are kept. They can be made exactly if all gaps fit into a word; the script itself, and
the rows, take gaps of any size.
-/

namespace MoteTrial

open SimM Simulation Session Scenario

variable {κ μ : Type} {t : Nat}

section Gaps

/-- The gaps before each of some counters, the first after an earlier counter. -/
def Reception.gaps (last : Int) : List Int → List Int
  | [] => []
  | counter :: rest => max 0 (counter - last - 1) :: gaps counter rest

/-- What is lost is the sum of the gaps. -/
theorem Reception.lost_recordAll (r : Reception) (counters : List Int) :
    ((r.recordAll counters).lost : Int) = r.lost + (Reception.gaps r.last counters).sum := by
  induction counters generalizing r with
  | nil => simp [Reception.recordAll, Reception.gaps]
  | cons counter rest ih =>
    have next := ih (r.record counter)
    simp only [Reception.gaps, List.sum_cons]
    change (((r.record counter).recordAll rest).lost : Int) = _
    rw [next, Reception.record_lost, Reception.record_last, Reception.gap]
    omega

/-- The gaps of chained rows are those of their counters. -/
theorem Chained.gaps {last lost : Int} {rows : List ReceptionRow} (chained : Chained last lost rows) :
    rows.map (·.gap) = Reception.gaps last (rows.map (·.counter)) := by
  induction rows generalizing last lost with
  | nil => rfl
  | cons row rest ih =>
    obtain ⟨before, gap, -, onward⟩ := chained
    rw [List.map_cons, List.map_cons, Reception.gaps, gap, ih onward]

end Gaps

section Statistics

variable {rows : List ReceptionRow} {final : ReceptionRow}

/-- The greatest of some gaps. -/
theorem greatest_gap {gaps : List Int} (some : gaps ≠ []) :
    gaps.foldl max (gaps.headD 0) ∈ gaps ∧ ∀ gap ∈ gaps, gap ≤ gaps.foldl max (gaps.headD 0) := by
  rw [← List.max?_eq_some_iff]
  cases gaps with
  | nil => exact absurd rfl some
  | cons first rest =>
    rw [List.max?_cons', List.headD_cons, List.foldl_cons, max_self]

/-- Statistics that tell of a state and of the rows that account for it. -/
structure Describes (state : Reception) (rows : List ReceptionRow) (s : LossStatistics) : Prop where
  received : s.received = state.received
  lost : s.lost = state.lost
  lost_sum : s.lost = (rows.map (·.gap)).sum
  maxGap_mem : s.maxGap ∈ rows.map (·.gap)
  le_maxGap : ∀ row ∈ rows, row.gap ≤ s.maxGap
  maxGap_nonneg : 0 ≤ s.maxGap
  maxGap_le : s.maxGap ≤ s.lost
  lossless : s.maxGap = 0 ↔ s.lost = 0
  divisor : 0 < s.received + s.lost
  lossRate : s.lossRate = Binary64.ofRatio s.lost (s.received + s.lost)

/-- Statistics are made of rows whose gaps fit into words. -/
theorem ofRows_within (last : rows.getLast? = some final) (nonneg : 0 ≤ final.lost)
    (fits : ∀ row ∈ rows, LossStatistics.fitsWord row.gap = true) :
    LossStatistics.ofRows rows = .ok {
      received := rows.length
      lost := final.lost
      lossRate := Binary64.ofRatio final.lost (rows.length + final.lost)
      meanGap := LossStatistics.mean (rows.map (·.gap))
      maxGap := (rows.map (·.gap)).foldl max ((rows.map (·.gap)).headD 0) } := by
  have some : 0 < rows.length := List.length_pos_of_mem (List.mem_of_getLast? last)
  have divisor : ¬ (rows.length : Int) + final.lost = 0 := by omega
  have within : (rows.map (·.gap)).all LossStatistics.fitsWord = true := by
    rw [List.all_map]
    exact List.all_eq_true.mpr fits
  simp only [LossStatistics.ofRows, last, within, divisor, Bool.not_true, Bool.false_eq_true,
    ↓reduceIte]

/-- A gap that does not fit into a word is one too many. -/
theorem ofRows_beyond {row : ReceptionRow} (member : row ∈ rows)
    (beyond : LossStatistics.fitsWord row.gap = false) :
    LossStatistics.ofRows rows = .error .beyondWord := by
  have unfit : (rows.map (·.gap)).all LossStatistics.fitsWord = false :=
    List.all_eq_false.mpr ⟨row.gap, List.mem_map_of_mem member, by rw [beyond]; decide⟩
  cases last : rows.getLast? with
  | none =>
    rw [List.getLast?_eq_none_iff.mp last] at member
    cases member
  | some final => simp only [LossStatistics.ofRows, last, unfit, Bool.not_false, ↓reduceIte]

theorem fitsWord_iff {gap : Int} (nonneg : 0 ≤ gap) :
    LossStatistics.fitsWord gap = true ↔ gap < 2 ^ 63 := by
  unfold LossStatistics.fitsWord
  rw [Bool.and_eq_true, decide_eq_true_eq, decide_eq_true_eq]
  omega

variable {state : Reception}

/-- The gaps of the rows add up to what the state has lost. -/
theorem Accounts.sum_gaps (accounts : Accounts rows state) (chained : Chained 0 0 rows) :
    (rows.map (·.gap)).sum = state.lost := by
  rw [accounts.counters, Reception.lost_recordAll, chained.gaps]
  exact (Int.zero_add _).symm

theorem Chained.nonneg {last lost : Int} (chained : Chained last lost rows) (start : 0 ≤ lost) :
    ∀ row ∈ rows, 0 ≤ row.gap ∧ 0 ≤ row.lost := by
  induction rows generalizing last lost with
  | nil => nofun
  | cons first rest ih =>
    obtain ⟨-, gap, total, onward⟩ := chained
    have here : 0 ≤ first.gap ∧ 0 ≤ first.lost := by omega
    intro row member
    rcases List.mem_cons.mp member with rfl | later
    · exact here
    · exact ih onward here.2 row later

/-- Statistics can be made of rows exactly if all their gaps fit into words. -/
theorem ofRows_isOk_iff (nonneg : ∀ row ∈ rows, 0 ≤ row.gap ∧ 0 ≤ row.lost) :
    (∃ s, LossStatistics.ofRows rows = .ok s) ↔ ∀ row ∈ rows, row.gap < 2 ^ 63 := by
  constructor
  · rintro ⟨s, made⟩ row member
    refine Decidable.byContradiction fun large => ?_
    have beyond := Bool.eq_false_iff.mpr fun fits => large ((fitsWord_iff (nonneg row member).1).mp fits)
    cases made.symm.trans (ofRows_beyond member beyond)
  · intro small
    cases last : rows.getLast? with
    | none =>
      rw [List.getLast?_eq_none_iff.mp last]
      exact ⟨_, rfl⟩
    | some final =>
      have member := List.mem_of_getLast? last
      exact ⟨_, ofRows_within last (nonneg final member).2 fun row member =>
        (fitsWord_iff (nonneg row member).1).mpr (small row member)⟩

/-- If there are rows and their gaps fit into words, statistics are made of them and describe the
state. -/
theorem Accounts.described (accounts : Accounts rows state) (chained : Chained 0 0 rows)
    (some : rows ≠ []) (small : ∀ row ∈ rows, row.gap < 2 ^ 63) :
    ∃ s, LossStatistics.ofRows rows = .ok s ∧ Describes state rows s := by
  have last := List.getLast?_eq_some_getLast some
  generalize rows.getLast some = final at last
  have nonneg (row : ReceptionRow) (member : row ∈ rows) := (chained.nonneg (Int.le_refl 0) row member).1
  have gaps : ∀ gap ∈ rows.map (·.gap), 0 ≤ gap := by
    intro gap member
    obtain ⟨row, here, rfl⟩ := List.mem_map.mp member
    exact nonneg row here
  have lost : final.lost = state.lost := by rw [accounts.lost, last]; rfl
  have sum := accounts.sum_gaps chained
  have made := ofRows_within last (lost ▸ Int.natCast_nonneg _) fun row member =>
    (fitsWord_iff (nonneg row member)).mpr (small row member)
  have somewhere : rows.map (·.gap) ≠ [] := fun none => some (List.map_eq_nil_iff.mp none)
  obtain ⟨mem, greatest⟩ := greatest_gap somewhere
  refine ⟨_, made, ?_⟩
  generalize (rows.map (·.gap)).foldl max ((rows.map (·.gap)).headD 0) = top at mem greatest ⊢
  have below : top ≤ final.lost := by
    rw [lost, ← sum]
    exact List.single_le_sum gaps top mem
  have length : 0 < rows.length := List.length_pos_iff.mpr some
  refine ⟨accounts.received.symm, lost, lost.trans sum.symm, mem, ?_, gaps top mem, below, ?_, ?_, ?_⟩
  · exact fun row member => greatest _ (List.mem_map_of_mem member)
  · constructor
    · intro none
      have zeros : ∀ gap ∈ rows.map (·.gap), gap = 0 := fun gap member =>
        Int.le_antisymm (none ▸ greatest gap member) (gaps gap member)
      rw [lost, ← sum, List.sum_eq_zero zeros]
    · intro none
      exact Int.le_antisymm (none ▸ below) (gaps top mem)
  · have := gaps top mem
    dsimp only
    omega
  · dsimp only

end Statistics

section Stage

theorem idle_spares (c : Unit) (cue : Cue) : (idle c cue).SparesRows 0 := trivial

theorem unbooked_heard (lines : List (Int × Int × String)) : Unbooked 0 [] (heard lines) := by
  have bare : ({ traces := #[{}] } : Observer).receptions? 0 = some [] :=
    Observer.receptions?_eq_some.mpr ⟨{}, rfl, rfl⟩
  refine List.foldlRecOn lines _ ⟨bare, fun i script found => ?_⟩ fun w unbooked line _ => ?_
  · cases found
  · exact ⟨unbooked.held, unbooked.unrecorded⟩

/-- Counters that jump ahead, come late, and jump over the same numbers again. -/
def backward : World Unit (Diary Unit) :=
  heard [(1, 2, "received 3"), (2, 2, "received -1"), (3, 2, "received 3")]

/-- A counter so far ahead that its gap does not fit into a word. -/
def farAhead : World Unit (Diary Unit) := heard [(1, 2, "received 9223372036854775809")]

end Stage

section Run

variable {w : World κ (Diary μ)} {code : κ → Cue → Program κ μ}

/-- A host runs the reception script with a trace. If the script is `settled` and has processed a counter,
and all gaps fit into words, then statistics of the trace can be made and describe the state of the
script. -/
def Described (h t : Nat) (settled : Reception → Prop) (w : World κ μ) : Prop :=
  ∃ timeout state trace,
    w.script? h = some (.reception timeout true (some t) state) ∧ w.observer.traces[t]? = some trace ∧
      (settled state → 0 < state.received → (∀ row ∈ trace.receptionRows, row.gap < 2 ^ 63) →
        ∃ s, trace.statistics = .ok s ∧ Describes state trace.receptionRows.toList s)

theorem InStep.described {h : Nat} {state : Reception} {new : List ReceptionRow} {w : World κ μ}
    (inStep : InStep state new) (books : Books h t state ([] ++ new) w) (settled : Reception → Prop) :
    Described h t settled w := by
  obtain ⟨timeout, own⟩ := books.own
  obtain ⟨trace, held, rfl⟩ := Observer.receptions?_eq_some.mp books.held
  refine ⟨timeout, state, trace, own, held, fun _ processed small => ?_⟩
  have some : trace.receptionRows.toList ≠ [] := by
    rw [inStep.accounts.received] at processed
    exact List.length_pos_iff.mp processed
  exact inStep.accounts.described inStep.chained some fun row member =>
    small row (Array.mem_toList_iff.mp member)

end Run

section Lag

open Tally

variable {counters : List Int} {counter : Int}

end Lag

section Returned

variable {w : World κ (Diary μ)} {code : κ → Cue → Program κ μ}

/-- After a run that returns, statistics of its trace can be made exactly if all gaps fit into words,
whatever the trace held before. Neither the script nor the rows need that: one counter far ahead is
enough for a gap that does not fit. -/
theorem statistics_of_returned {before : List ReceptionRow} (unbooked : Unbooked t before w)
    (spares : ∀ c cue, (code c cue).SparesRows t)
    (nonneg : ∀ row ∈ before, 0 ≤ row.gap ∧ 0 ≤ row.lost) (timeout : Int) (echo : Bool)
    (limit fuel : Nat) :
    Returns (fun _ ended => ∃ deadline state trace new,
        ended.script? w.hosts.size = some (.reception deadline true (some t) state) ∧
        ended.observer.traces[t]? = some trace ∧
        trace.receptionRows.toList = before ++ new ∧ Accounts new state ∧ Chained 0 0 new ∧
        ((∃ s, trace.statistics = .ok s) ↔ ∀ row ∈ trace.receptionRows, row.gap < 2 ^ 63) ∧
        ((∃ row ∈ trace.receptionRows, 2 ^ 63 ≤ row.gap) → trace.statistics = .error .beyondWord))
      (runScript (behaviour code limit) fuel (.reception timeout false none {}) (some t) echo w) := by
  refine (unbooked.runScript spares timeout echo limit fuel).returns.imp ?_
  rintro _ ended ⟨state, new, inStep, books⟩
  obtain ⟨deadline, own⟩ := books.own
  obtain ⟨trace, held, rows⟩ := Observer.receptions?_eq_some.mp books.held
  have sound : ∀ row ∈ trace.receptionRows.toList, 0 ≤ row.gap ∧ 0 ≤ row.lost := by
    rw [rows]
    intro row member
    rcases List.mem_append.mp member with earlier | later
    · exact nonneg row earlier
    · exact inStep.chained.nonneg (Int.le_refl 0) row later
  refine ⟨deadline, state, trace, new, own, held, rows, inStep.accounts, inStep.chained, ?_, ?_⟩
  · simpa only [Array.mem_toList_iff, Trace.statistics] using ofRows_isOk_iff sound
  · rintro ⟨row, member, large⟩
    have listed := Array.mem_toList_iff.mpr member
    have beyond := Bool.eq_false_iff.mpr fun fits =>
      absurd ((fitsWord_iff (sound row listed).1).mp fits) (Int.not_lt.mpr large)
    exact ofRows_beyond listed beyond

/-- The run of a counter that is too far ahead returns, and the statistics of its trace cannot be made. -/
theorem statistics_beyond_word :
    (match runScript (behaviour idle 1) 8 (.reception 10 false none {}) (some 0) true farAhead with
      | .ok _ ended => ended.observer.traces[0]?.map fun trace =>
          (trace.receptionRows.map (·.gap), trace.statistics)
      | .error _ _ => none) = some (#[2 ^ 63], .error .beyondWord) := by
  decide +kernel

theorem statistics_of_returned_backward :
    Unbooked 0 [] backward ∧ (∀ c cue, (idle c cue).SparesRows 0) ∧
      Returns (fun _ ended => ∃ deadline state trace new,
          ended.script? 0 = some (.reception deadline true (some 0) state) ∧
          ended.observer.traces[0]? = some trace ∧
          trace.receptionRows.toList = [] ++ new ∧ Accounts new state ∧ Chained 0 0 new ∧
          ((∃ s, trace.statistics = .ok s) ↔ ∀ row ∈ trace.receptionRows, row.gap < 2 ^ 63) ∧
          ((∃ row ∈ trace.receptionRows, 2 ^ 63 ≤ row.gap) →
            trace.statistics = .error .beyondWord))
        (runScript (behaviour idle 1) 8 (.reception 10 false none {}) (some 0) true backward) ∧
      (match runScript (behaviour idle 1) 8 (.reception 10 false none {}) (some 0) true backward with
        | .ok h _ => some h
        | .error _ _ => none) = some 0 := by
  refine ⟨unbooked_heard _, idle_spares, ?_, by decide +kernel⟩
  exact statistics_of_returned (unbooked_heard _) idle_spares nofun 10 true 1 8

end Returned

end MoteTrial
