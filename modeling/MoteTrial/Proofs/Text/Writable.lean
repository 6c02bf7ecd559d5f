import MoteTrial.Failure

/-! # Integers that can be written

Which integers have few enough digits to be written. Proofs about runs cite these lemmas.
-/

namespace MoteTrial

theorem writeInt_apply {n : Int} (writable : Numeral.isWritable n = true) :
    writeInt n = .ok (Numeral.decimal n) := by
  rw [writeInt, if_pos writable]

theorem writeInt_unwritable {n : Int} (long : Numeral.isWritable n = false) :
    writeInt n = .error .unwritableInteger := by
  rw [writeInt, if_neg (by simp [long])]

/-- The least integer that is too long. -/
theorem isWritable_overlong : Numeral.isWritable ((10 ^ Numeral.digitLimit : Nat) : Int) = false := by
  rw [← Bool.not_eq_true, Numeral.isWritable_iff, Int.natAbs_natCast]
  exact Nat.lt_irrefl _

theorem settled_unwritable : Failure.unwritableInteger.settled = .unwritableInteger := rfl

theorem isWritable_zero : Numeral.isWritable 0 = true := by
  rw [Numeral.isWritable_iff]
  exact Nat.pow_pos (by decide)

/-- What is no longer than an integer that can be written can be written. -/
theorem isWritable_of_le {n limit : Int} (nonneg : 0 ≤ n) (small : n ≤ limit)
    (writable : Numeral.isWritable limit = true) : Numeral.isWritable n = true := by
  rw [Numeral.isWritable_iff] at writable ⊢
  omega

/-- A number that is passed every ten seconds can be written with its successor. -/
theorem isWritable_next {n : Nat} {now : Int} (paced : 10000 * (n : Int) ≤ now)
    (writable : Numeral.isWritable now = true) : Numeral.isWritable ((n + 1 : Nat) : Int) = true := by
  have many : 1 < 10 ^ Numeral.digitLimit := Nat.one_lt_pow (by decide) (by decide)
  rw [Numeral.isWritable_iff] at writable ⊢
  generalize 10 ^ Numeral.digitLimit = bound at many writable
  omega

end MoteTrial
