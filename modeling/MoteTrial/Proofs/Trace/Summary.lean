import MoteTrial.Proofs.Execution
import MoteTrial.Proofs.Text.Writable
import MoteTrial.Proofs.Trace.Rows
import MoteTrial.Trace.Summary

/-! # The report that closes a trace

What a report says is lost is what the last row of receptions says, so it can be written if that can.
Making the report has nothing to do with what is on the console.
-/

namespace MoteTrial

open SimM

variable {t : Nat} {o o' : Observer}

/-- What a trace says is lost can be written. -/
def LossesShown (t : Nat) (o : Observer) : Prop :=
  ∀ row ∈ (o.trace t).receptionRows, Numeral.isWritable row.lost = true

theorem LossesShown.of_rows (shown : LossesShown t o) (same : o'.rows = o.rows) :
    LossesShown t o' := by
  have rows : (o'.trace t).inMemory = (o.trace t).inMemory := by
    rw [o'.inMemory_trace, o.inMemory_trace, same]
  have receptions : (o'.trace t).receptionRows = (o.trace t).receptionRows :=
    (congrArg Trace.receptionRows rows :)
  unfold LossesShown
  rw [receptions]
  exact shown

/-- The losses in statistics are those of the last row, if there is one. -/
theorem LossesShown.statistics (shown : LossesShown t o) {statistics : LossStatistics}
    (made : (o.trace t).statistics = .ok statistics) :
    Numeral.isWritable statistics.lost = true := by
  unfold Trace.statistics LossStatistics.ofRows at made
  split at made
  · cases made
    exact isWritable_zero
  · rename_i final last
    dsimp only at made
    split at made
    · cases made
    · split at made
      · cases made
      · cases made
        exact shown final (Array.mem_toList_iff.mp (List.mem_of_getLast? last))

theorem Observer.onDisk_kept {α : Type} (m : DiskM α) (o : Observer) :
    Returns (fun _ o' => o'.rows = o.rows) (onDisk m o) := by
  have kept := traces_onDisk m o
  cases ran : onDisk m o with
  | ok a o' =>
    rw [ran] at kept
    exact congrArg (Array.map Trace.inMemory) kept
  | error f o' => trivial

/-- If a report is made, what it says is lost can be written. -/
theorem LossesShown.summarize (shown : LossesShown t o) :
    Returns (fun summary _ => Numeral.isWritable summary.statistics.lost = true)
      (Observer.summarize t o) := by
  have read : Returns (fun _ o' => o'.rows = o.rows) (Observer.readClock o) := rfl
  unfold Observer.summarize
  refine read.bind fun now o₁ kept => ?_
  rw [get_bind_apply]
  dsimp only
  -- whether the files have been made matters only for the seconds since
  cases (o₁.trace t).started with
  | none | some start =>
    refine Returns.bind (P := fun _ (o' : Observer) => o'.rows = o.rows) kept
      fun start o₂ kept' => ?_
    rw [modify_bind_apply, get_bind_apply]
    have noted := o₂.rows_note t (f := fun t => { t with wallSeconds := now.sub start }) fun _ => rfl
    have shown' := shown.of_rows (noted.trans kept')
    generalize o₂.modifyTrace t _ = o₃ at shown' ⊢
    cases made : (o₃.trace t).statistics with
    | error f => trivial
    | ok statistics =>
      have lost := shown'.statistics made
      dsimp only
      rw [pure_bind]
      cases (o₃.trace t).folder with
      | none => exact lost
      | some folder => exact Returns.bind (Observer.onDisk_kept _ o₃) fun _ _ _ => lost

/-- An operation that has nothing to do with the console. -/
def Unspoken {α : Type} (m : ObserverM α) : Prop :=
  ∀ o text, m (o.print text) =
    match m o with
    | .ok a o => .ok a (o.print text)
    | .error f o => .error f (o.print text)

namespace Unspoken

variable {α β : Type}

theorem bind {m : ObserverM α} {f : α → ObserverM β} (first : Unspoken m)
    (rest : ∀ a, Unspoken (f a)) : Unspoken (m >>= f) := by
  intro o text
  have printed := first o text
  cases ran : m o with
  | ok a o' =>
    rw [ran] at printed
    rw [bind_ok printed, bind_ok ran]
    exact rest a o' text
  | error i o' =>
    rw [ran] at printed
    rw [bind_error printed, bind_error ran]

theorem reads {f : Observer → ObserverM α} (rest : ∀ o, Unspoken (f o))
    (same : ∀ o text, f (o.print text) = f o) : Unspoken (get >>= f) := by
  intro o text
  rw [get_bind_apply, get_bind_apply, same]
  exact rest o o text

theorem onDisk (m : DiskM α) : Unspoken (Observer.onDisk m) := by
  intro o text
  have same : (o.print text).disk = o.disk := rfl
  unfold Observer.onDisk
  rw [same]
  cases m o.disk with
  | ok a d => rfl
  | error f d => rfl

theorem summarize (id : Nat) : Unspoken (Observer.summarize id) := by
  unfold Observer.summarize
  refine bind (fun _ _ => rfl) fun now => reads (fun o => ?_) fun _ _ => rfl
  dsimp only
  split
  all_goals
    refine bind (fun _ _ => rfl) fun start => bind (fun _ _ => rfl) fun _ => ?_
    refine reads (fun o => ?_) fun _ _ => rfl
    split
    · refine bind (fun _ _ => rfl) fun statistics => ?_
      split
      · exact fun _ _ => rfl
      · exact (onDisk _).bind fun _ => fun _ _ => rfl
    · exact fun _ _ => rfl

end Unspoken

end MoteTrial
