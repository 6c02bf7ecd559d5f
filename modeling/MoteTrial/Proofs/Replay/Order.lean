import Mathlib.Data.List.Induction
import Mathlib.Data.List.TakeWhile
import MoteTrial.Proofs.Network.Assembly
import MoteTrial.Replay

/-! # The order of a replay

A log need not be in order. Its records are replayed by time, those of one time in the order of the
log, and none before the start: `Replay.sorted`. The lines that are pending once a log is scheduled are
those records, in this order. A script makes of a record what the records before it allow, so that each
is looked at as a `Stage` of the log.
-/

namespace MoteTrial

open LogFile SimM Simulation

/-- The record as a replay has it, not before the start. -/
def LogFile.Record.onClock (r : Record) : Record := { r with time := max 0 r.time }

namespace Replay

/-- The records of a log in the order in which they are replayed. -/
def sorted (records : List Record) : List Record :=
  (records.map Record.onClock).mergeSort fun r s => r.time ≤ s.time

/-- The records of a log that are replayed up to a deadline. -/
def upTo (timeout : Int) (records : List Record) : List Record :=
  (sorted records).filter fun r => r.time ≤ timeout

theorem noLater_trans (r s t : Record) (first : decide (r.time ≤ s.time) = true)
    (second : decide (s.time ≤ t.time) = true) : decide (r.time ≤ t.time) = true :=
  decide_eq_true (Int.le_trans (of_decide_eq_true first) (of_decide_eq_true second))

theorem noLater_total (r s : Record) :
    (decide (r.time ≤ s.time) || decide (s.time ≤ r.time)) = true := by
  simpa using Int.le_total r.time s.time

theorem pairwise_sorted (records : List Record) :
    (sorted records).Pairwise fun r s => r.time ≤ s.time :=
  (List.pairwise_mergeSort noLater_trans noLater_total _).imp of_decide_eq_true

theorem pairwise_upTo (timeout : Int) (records : List Record) :
    (upTo timeout records).Pairwise fun r s => r.time ≤ s.time :=
  (pairwise_sorted records).filter _

theorem length_sorted (records : List Record) : (sorted records).length = records.length := by
  rw [sorted, List.length_mergeSort, List.length_map]

theorem length_upTo_le (timeout : Int) (records : List Record) :
    (upTo timeout records).length ≤ records.length :=
  Nat.le_trans (List.length_filter_le _ _) (Nat.le_of_eq (length_sorted records))

theorem upTo_within {timeout : Int} {records : List Record} :
    ∀ r ∈ upTo timeout records, 0 ≤ r.time ∧ r.time ≤ timeout := by
  intro r member
  obtain ⟨replayed, early⟩ := List.mem_filter.mp member
  obtain ⟨s, _, rfl⟩ := List.mem_map.mp (List.mem_mergeSort.mp replayed)
  exact ⟨Int.le_max_left 0 s.time, by simpa using early⟩

/-- A log that is in order is replayed as it stands. -/
theorem upTo_eq_self {timeout : Int} {records : List Record}
    (ordered : records.Pairwise fun r s => r.time ≤ s.time)
    (within : ∀ r ∈ records, 0 ≤ r.time ∧ r.time ≤ timeout) : upTo timeout records = records := by
  have clocked : records.map Record.onClock = records := by
    refine (List.map_congr_left fun r member => ?_).trans (List.map_id records)
    rw [Record.onClock, Int.max_eq_right (within r member).1]
    rfl
  have kept : sorted records = records := by
    rw [sorted, clocked]
    exact List.mergeSort_of_pairwise (ordered.imp decide_eq_true)
  rw [upTo, kept]
  refine List.filter_eq_self.mpr fun r member => ?_
  simpa using (within r member).2

/-- Sorting is stable: the records of one time stay in order. -/
theorem filter_sorted (records : List Record) (time : Int) :
    (sorted records).filter (fun r => r.time = time) =
      (records.map Record.onClock).filter fun r => r.time = time := by
  let simultaneous := (records.map Record.onClock).filter fun r => r.time = time
  have level : simultaneous.Pairwise fun r s => decide (r.time ≤ s.time) = true := by
    refine List.pairwise_of_forall_mem_list fun r first s second => ?_
    have at_r : r.time = time := by simpa using (List.mem_filter.mp first).2
    have at_s : s.time = time := by simpa using (List.mem_filter.mp second).2
    exact decide_eq_true (Int.le_of_eq (at_r.trans at_s.symm))
  have kept : simultaneous.Sublist (sorted records) :=
    List.sublist_mergeSort noLater_trans noLater_total level List.filter_sublist
  have among := kept.filter fun r => r.time = time
  rw [List.filter_filter] at among
  simp only [Bool.and_self] at among
  refine (among.eq_of_length ?_).symm
  exact ((List.mergeSort_perm _ _).symm.filter _).length_eq

end Replay

/-- A sorted list is determined by the elements that it has at each time, in their order. -/
theorem eq_of_sorted_of_filter_eq {α : Type} (time : α → Int) {l l' : List α}
    (sorted : l.Pairwise fun a b => time a ≤ time b)
    (sorted' : l'.Pairwise fun a b => time a ≤ time b)
    (same : ∀ t, l.filter (fun a => time a = t) = l'.filter fun a => time a = t) : l = l' := by
  induction l generalizing l' with
  | nil =>
    cases l' with
    | nil => rfl
    | cons b rest =>
      have := same (time b)
      simp at this
  | cons a rest ih =>
    obtain ⟨least, ordered⟩ := List.pairwise_cons.mp sorted
    cases l' with
    | nil =>
      have := same (time a)
      simp at this
    | cons b rest' =>
      obtain ⟨least', ordered'⟩ := List.pairwise_cons.mp sorted'
      have within : a ∈ b :: rest' := by
        have : a ∈ (a :: rest).filter fun c => time c = time a := by simp
        rw [same] at this
        exact (List.mem_filter.mp this).1
      have within' : b ∈ a :: rest := by
        have : b ∈ (b :: rest').filter fun c => time c = time b := by simp
        rw [← same] at this
        exact (List.mem_filter.mp this).1
      have level : time a = time b := by
        rcases List.mem_cons.mp within with rfl | behind
        · rfl
        · rcases List.mem_cons.mp within' with rfl | behind'
          · rfl
          · exact Int.le_antisymm (least b behind') (least' a behind)
      have first := same (time a)
      simp only [List.filter_cons, decide_true, ↓reduceIte, level, List.cons.injEq] at first
      obtain ⟨rfl, _⟩ := first
      refine congrArg (a :: ·) (ih ordered ordered' fun t => ?_)
      have rest_same := same t
      simp only [List.filter_cons] at rest_same
      split at rest_same
      · exact (List.cons.inj rest_same).2
      · exact rest_same

/-- A log may be rearranged as long as the records of one time stay in order. -/
theorem Replay.sorted_eq_of_filter_eq {records records' : List Record}
    (same : ∀ time, (records.map Record.onClock).filter (fun r => r.time = time) =
      (records'.map Record.onClock).filter fun r => r.time = time) :
    sorted records = sorted records' := by
  refine eq_of_sorted_of_filter_eq Record.time (pairwise_sorted records) (pairwise_sorted records') ?_
  intro time
  rw [filter_sorted, filter_sorted, same]

namespace Scheduler

variable {α : Type} {new : Appointment α} {pending : List (Appointment α)}

/-- An event comes after all that are due no later, and before the others. -/
theorem insert_eq (sorted : pending.Pairwise fun a b => a.due ≤ b.due) :
    insert new pending = pending.filter (fun a => a.due ≤ new.due) ++
      new :: pending.filter fun a => new.due < a.due := by
  induction pending with
  | nil => rfl
  | cons a rest ih =>
    obtain ⟨least, ordered⟩ := List.pairwise_cons.mp sorted
    rw [insert]
    split
    · rename_i sooner
      have none_earlier : (a :: rest).filter (fun b => b.due ≤ new.due) = [] := by
        refine List.filter_eq_nil_iff.mpr fun b member => ?_
        rcases List.mem_cons.mp member with rfl | member
        · simpa using sooner
        · simpa using Int.lt_of_lt_of_le sooner (least b member)
      have all_later : (a :: rest).filter (fun b => new.due < b.due) = a :: rest := by
        refine List.filter_eq_self.mpr fun b member => ?_
        rcases List.mem_cons.mp member with rfl | member
        · simpa using sooner
        · simpa using Int.lt_of_lt_of_le sooner (least b member)
      rw [none_earlier, all_later, List.nil_append]
    · rename_i later
      have early : a.due ≤ new.due := by omega
      rw [ih ordered]
      simp [early, later]

/-- Inserted events keep their order among those that are due at the same time. -/
theorem filter_insert (sorted : pending.Pairwise fun a b => a.due ≤ b.due) (time : Int) :
    (insert new pending).filter (fun a => a.due = time) =
      pending.filter (fun a => a.due = time) ++ [new].filter fun a => a.due = time := by
  induction pending with
  | nil => rfl
  | cons a rest ih =>
    obtain ⟨least, ordered⟩ := List.pairwise_cons.mp sorted
    rw [insert]
    split
    · rename_i sooner
      by_cases due : new.due = time
      · have none_else : (a :: rest).filter (fun b => b.due = time) = [] := by
          refine List.filter_eq_nil_iff.mpr fun b member => ?_
          rcases List.mem_cons.mp member with rfl | member
          · simp only [decide_eq_true_eq]
            omega
          · have := least b member
            simp only [decide_eq_true_eq]
            omega
        rw [List.filter_cons, none_else]
        simp [due]
      · simp [List.filter_cons, due]
    · rw [List.filter_cons, List.filter_cons, ih ordered]
      split
      · rfl
      · rfl

end Scheduler

section Schedule

variable {κ μ : Type}

/-- The line that a record becomes, and when it is due. -/
def LogFile.Record.said (r : Record) : Int × Event κ := (r.time, .line r.mote r.msg)

/-- The world with a mote added if it is missing. -/
def World.ensured (id : Int) (w : World κ μ) : World κ μ :=
  match w.motes.find? id with
  | some _ => w
  | none => w.putMote id {}

/-- The world with recorded lines scheduled. -/
def World.replaying : List Record → World κ μ → World κ μ
  | [], w => w
  | r :: rest, w =>
    replaying rest ((w.ensured r.mote).register (max w.now r.time) (.line r.mote r.msg))

theorem World.ensured_keeps (id : Int) (w : World κ μ) :
    ∃ motes, w.ensured id = { w with motes } := by
  unfold World.ensured
  split
  · exact ⟨w.motes, rfl⟩
  · exact ⟨_, rfl⟩

theorem getMote_bind_apply {α : Type} (id : Int) (f : SimM κ μ α) (w : World κ μ) :
    (getMote id >>= fun _ => f) w = f (w.ensured id) := by
  have run : ∃ mote, getMote id w = .ok mote (w.ensured id) := by
    unfold getMote World.ensured
    rw [get_bind_apply]
    cases w.motes.find? id with
    | some mote => exact ⟨mote, rfl⟩
    | none => exact ⟨{}, rfl⟩
  obtain ⟨mote, run⟩ := run
  exact bind_ok run _

theorem schedule_records_apply (records : List Record) (w : World κ μ) :
    Replay.schedule records w = .ok () (w.replaying records) := by
  induction records generalizing w with
  | nil => rfl
  | cons r rest ih =>
    obtain ⟨motes, ensured⟩ := w.ensured_keeps r.mote
    unfold Replay.schedule World.replaying
    rw [getMote_bind_apply, bind_ok (scheduleAt_apply _ _ _), ih]
    rw [show (w.ensured r.mote).now = w.now by rw [ensured]; rfl]

theorem World.replaying_keeps (records : List Record) (w : World κ μ) :
    ∃ motes scheduler, w.replaying records = { w with motes, scheduler } ∧
      scheduler.now = w.now ∧ scheduler.stopped = w.scheduler.stopped := by
  induction records generalizing w with
  | nil => exact ⟨w.motes, w.scheduler, rfl, rfl, rfl⟩
  | cons r rest ih =>
    obtain ⟨motes, ensured⟩ := w.ensured_keeps r.mote
    unfold World.replaying
    rw [ensured]
    exact ih _

theorem Scheduler.pairwise_due {α : Type} (s : Scheduler α) :
    s.pending.Pairwise fun a b => a.due ≤ b.due := by
  refine s.ordered.imp fun {a b} before => ?_
  rcases before with sooner | ⟨same, _⟩
  · exact Int.le_of_lt sooner
  · exact Int.le_of_eq same

/-- The lines of one time are pending in the order in which they were scheduled. -/
theorem World.filter_replaying (records : List Record) {w : World κ μ} (start : w.now = 0)
    (time : Int) :
    ((w.replaying records).scheduler.pending.filter fun a => a.due = time).map
        (fun a => (a.due, a.event)) =
      (w.scheduler.pending.filter fun a => a.due = time).map (fun a => (a.due, a.event)) ++
        ((records.map Record.onClock).filter fun r => r.time = time).map Record.said := by
  induction records generalizing w with
  | nil => simp [World.replaying]
  | cons r rest ih =>
    obtain ⟨motes, ensured⟩ := w.ensured_keeps r.mote
    have pending (line : Event κ) :
        ((w.ensured r.mote).register (max w.now r.time) line).scheduler.pending =
          Scheduler.insert ⟨max 0 r.time, w.scheduler.issued, line⟩ w.scheduler.pending := by
      rw [ensured, start]
      rfl
    unfold World.replaying
    rw [ih (by rw [ensured]; exact start), pending, Scheduler.filter_insert w.scheduler.pairwise_due,
      List.map_append, List.append_assoc, List.map_cons, List.filter_cons (x := r.onClock)]
    by_cases due : max 0 r.time = time
    · simp [Record.onClock, Record.said, due]
    · simp [Record.onClock, due]

/-- The line of a record is due at the time of the record. -/
theorem World.mem_replaying {records : List Record} {r : Record} (member : r ∈ records)
    {w : World κ μ} (start : w.now = 0) :
    r.onClock.said ∈ (w.replaying records).scheduler.pending.map fun a => (a.due, a.event) := by
  have same := World.filter_replaying records start r.onClock.time
  have here : r.onClock ∈ (records.map Record.onClock).filter fun s => s.time = r.onClock.time :=
    List.mem_filter.mpr ⟨List.mem_map_of_mem member, decide_eq_true rfl⟩
  have due : r.onClock.said ∈
      ((w.replaying records).scheduler.pending.filter fun a => a.due = r.onClock.time).map
        fun a => (a.due, a.event) := by
    rw [same]
    exact List.mem_append_right _ (List.mem_map_of_mem here)
  obtain ⟨a, pending, said⟩ := List.mem_map.mp due
  exact List.mem_map.mpr ⟨a, (List.mem_filter.mp pending).1, said⟩

/-- The pending lines are the records in the order in which they are replayed. -/
theorem World.pending_replaying (records : List Record) {w : World κ μ} (idle : w.scheduler = {}) :
    (w.replaying records).scheduler.pending.map (fun a => (a.due, a.event)) =
      (Replay.sorted records).map Record.said := by
  refine eq_of_sorted_of_filter_eq Prod.fst ?_ ?_ fun time => ?_
  · exact List.pairwise_map.mpr (Scheduler.pairwise_due _)
  · exact List.pairwise_map.mpr (Replay.pairwise_sorted records)
  · have same := World.filter_replaying records (w := w) (by rw [World.now, idle]) time
    rw [idle, List.filter_nil, List.map_nil, List.nil_append, ← Replay.filter_sorted] at same
    rw [List.filter_map, List.filter_map]
    exact same

end Schedule

section Stages

variable {α β : Type}

/-- An element of a list with those before it. -/
structure Stage (α : Type) where
  past : List α
  here : α
  deriving DecidableEq, Repr

/-- The elements of a list, each with those before it. -/
def stages (xs : List α) : List (Stage α) := xs.zipIdx.map fun (x, i) => ⟨xs.take i, x⟩

theorem stages_append (xs : List α) (x : α) : stages (xs ++ [x]) = stages xs ++ [⟨xs, x⟩] := by
  unfold stages
  rw [List.zipIdx_append, List.map_append]
  congr 1
  · refine List.map_congr_left fun (y, i) member => ?_
    have before : i < xs.length := by simpa using List.snd_lt_of_mem_zipIdx member
    simp only [List.take_append_of_le_length (Nat.le_of_lt before)]
  · simp

theorem exists_eq_takeWhile_append {p : α → Bool} {xs : List α} {x : α}
    (found : xs.find? p = some x) :
    ∃ rest, xs = (xs.takeWhile fun y => !p y) ++ x :: rest := by
  obtain ⟨holds, before, rest, shape, others⟩ := List.find?_eq_some_iff_append.mp found
  have first : (xs.takeWhile fun y => !p y) = before := by
    rw [shape, List.takeWhile_append_of_pos others, List.takeWhile_cons_of_neg (by simp [holds]),
      List.append_nil]
  refine ⟨rest, ?_⟩
  rw [first]
  exact shape

theorem length_stages (xs : List α) : (stages xs).length = xs.length := by
  rw [stages, List.length_map, List.length_zipIdx]

theorem filterMap_stages_append (f : Stage α → Option β) (xs : List α) (x : α) :
    (stages (xs ++ [x])).filterMap f = (stages xs).filterMap f ++ (f ⟨xs, x⟩).toList := by
  rw [stages_append, List.filterMap_append]
  cases added : f ⟨xs, x⟩ with
  | none => simp [added]
  | some y => simp [added]

end Stages

end MoteTrial
