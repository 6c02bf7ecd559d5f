import MoteTrial.Reception

/-! # The account of a client whose counters may be lost

A client sends the counters from one upwards, and some of them arrive. What the account of those that
arrive says of the others: `Account` holds after any number of counters, and success means that the
counters that arrived are those up to some number.
-/

namespace MoteTrial.Reception

/-- The account once a number of counters have been sent; `arrives` tells which of them arrive, numbered
from zero. -/
def afterSending (arrives : Nat → Bool) (n : Nat) : Reception :=
  recordAll {} (((List.range n).filter arrives).map fun k => ((k + 1 : Nat) : Int))

/-- How many of the first counters do not arrive. -/
def missing (arrives : Nat → Bool) (n : Nat) : Nat := ((List.range n).filter fun k => !arrives k).length

/-- How many of the first counters arrive. -/
def reached (arrives : Nat → Bool) (n : Nat) : Nat := ((List.range n).filter arrives).length

/-- An account of a number of counters is right: none is out of order, all up to the last that arrived
are received or lost, the lost ones being those that did not arrive, and none arrived after the last. -/
structure Account (arrives : Nat → Bool) (n : Nat) (r : Reception) : Prop where
  ordered : r.outOfOrder = 0
  received : r.received = reached arrives n
  balanced : (r.lost : Int) + r.received = r.last
  lost : r.lost = missing arrives r.last.toNat
  within : r.last ≤ n
  later : ∀ k, r.last ≤ (k : Nat) → k < n → arrives k = false
  arrived : r.last ≠ 0 → arrives (r.last.toNat - 1) = true

section Account

variable {arrives : Nat → Bool} {n : Nat} {r : Reception}

theorem afterSending_succ (arrives : Nat → Bool) (n : Nat) :
    afterSending arrives (n + 1) =
      if arrives n then (afterSending arrives n).record (n + 1 : Nat) else afterSending arrives n := by
  unfold afterSending
  rw [List.range_succ, List.filter_append, List.map_append, recordAll, List.foldl_append]
  cases arrived : arrives n with
  | true =>
    simp only [List.filter_cons, arrived, ↓reduceIte]
    rfl
  | false =>
    simp only [List.filter_cons, arrived, Bool.false_eq_true, ↓reduceIte]
    rfl

theorem missing_succ (arrives : Nat → Bool) (n : Nat) :
    missing arrives (n + 1) = missing arrives n + if arrives n then 0 else 1 := by
  unfold missing
  rw [List.range_succ, List.filter_append, List.length_append]
  cases arrived : arrives n with
  | true => simp [arrived]
  | false => simp [arrived]

theorem reached_succ (arrives : Nat → Bool) (n : Nat) :
    reached arrives (n + 1) = if arrives n then reached arrives n + 1 else reached arrives n := by
  unfold reached
  rw [List.range_succ, List.filter_append, List.length_append]
  cases arrived : arrives n with
  | true => simp [arrived]
  | false => simp [arrived]

/-- Where nothing arrives, everything is missing. -/
theorem missing_add {m more : Nat} (silence : ∀ k, m ≤ k → k < m + more → arrives k = false) :
    missing arrives (m + more) = missing arrives m + more := by
  induction more with
  | zero => rfl
  | succ more ih =>
    have here := silence (m + more) (by omega) (by omega)
    rw [← Nat.add_assoc, missing_succ, ih fun k first last => silence k first (by omega), here]
    simp only [Bool.false_eq_true, ↓reduceIte]
    omega

/-- A counter that arrives is accounted for. -/
theorem Account.record (account : Account arrives n r) (here : arrives n = true) :
    Account arrives (n + 1) (r.record (n + 1 : Nat)) := by
  obtain ⟨ordered, received, balanced, lost, within, later, _⟩ := account
  have nonneg : 0 ≤ r.last := by omega
  have gap : r.gap (n + 1 : Nat) = n - r.last.toNat := by
    unfold gap
    omega
  have jumped : missing arrives n = missing arrives r.last.toNat + (n - r.last.toNat) := by
    have silence : ∀ k, r.last.toNat ≤ k → k < r.last.toNat + (n - r.last.toNat) →
        arrives k = false := fun k first last => later k (by omega) (by omega)
    have added := missing_add silence
    rwa [show r.last.toNat + (n - r.last.toNat) = n by omega] at added
  refine ⟨?_, ?_, ?_, ?_, ?_, ?_, ?_⟩
  · change (if ((n + 1 : Nat) : Int) ≤ r.last then r.outOfOrder + 1 else r.outOfOrder) = 0
    rw [if_neg (by omega), ordered]
  · rw [record_received, reached_succ, here, received]
    rfl
  · rw [record_lost, record_received, record_last, gap]
    omega
  · rw [record_lost, record_last, gap, Int.toNat_natCast, missing_succ, here, jumped, lost]
    rfl
  · exact Int.le_refl _
  · intro k first last
    rw [record_last] at first
    omega
  · intro _
    rw [record_last, Int.toNat_natCast]
    exact here

/-- A counter that does not arrive leaves the account right. -/
theorem Account.skip (account : Account arrives n r) (lost : arrives n = false) :
    Account arrives (n + 1) r where
  ordered := account.ordered
  received := by
    rw [reached_succ, lost]
    exact account.received
  balanced := account.balanced
  lost := account.lost
  within := by
    have := account.within
    omega
  later k first last := by
    by_cases same : k = n
    · rw [same]
      exact lost
    · exact account.later k first (by omega)
  arrived := account.arrived

/-- The account is right after any number of counters. -/
theorem account_afterSending (arrives : Nat → Bool) (n : Nat) :
    Account arrives n (afterSending arrives n) := by
  induction n with
  | zero =>
    refine ⟨rfl, rfl, rfl, rfl, Int.le_refl _, nofun, ?_⟩
    intro nonzero
    exact absurd rfl nonzero
  | succ n ih =>
    rw [afterSending_succ]
    cases arrived : arrives n with
    | true => exact ih.record arrived
    | false => exact ih.skip arrived

theorem missing_eq_zero_iff : missing arrives n = 0 ↔ ∀ k, k < n → arrives k = true := by
  unfold missing
  rw [List.length_eq_zero_iff, List.filter_eq_nil_iff]
  simp only [List.mem_range, Bool.not_eq_true', Bool.not_eq_false]

/-- Success means that the counters that arrived are the first ones, up to some number. -/
theorem Account.success_iff (account : Account arrives n r) :
    r.success = true ↔
      ∃ k, 1 ≤ k ∧ ∀ c, (1 ≤ c ∧ c ≤ n) ∧ arrives (c - 1) = true ↔ 1 ≤ c ∧ c ≤ k := by
  obtain ⟨_, _, balanced, lost, within, later, arrived⟩ := account
  have success : r.success = true ↔ r.last ≠ 0 ∧ r.lost = 0 := by
    simp only [success, Bool.and_eq_true, bne_iff_ne, beq_iff_eq]
  rw [success, lost, missing_eq_zero_iff]
  constructor
  · rintro ⟨some_, all⟩
    refine ⟨r.last.toNat, by omega, ?_⟩
    intro c
    constructor
    · rintro ⟨⟨first, last⟩, here⟩
      refine ⟨first, ?_⟩
      by_cases early : c ≤ r.last.toNat
      · exact early
      · rw [later (c - 1) (by omega) (by omega)] at here
        cases here
    · rintro ⟨first, last⟩
      exact ⟨⟨first, by omega⟩, all (c - 1) (by omega)⟩
  · rintro ⟨k, first, these⟩
    obtain ⟨⟨_, sent⟩, here⟩ := (these k).mpr ⟨first, Nat.le_refl k⟩
    have reached : (k : Int) ≤ r.last := by
      by_cases early : r.last ≤ ((k - 1 : Nat) : Int)
      · rw [later (k - 1) early (by omega)] at here
        cases here
      · omega
    have nonzero : r.last ≠ 0 := by omega
    refine ⟨nonzero, ?_⟩
    intro j below
    have last := (these r.last.toNat).mp ⟨⟨by omega, by omega⟩, arrived nonzero⟩
    exact ((these (j + 1)).mpr ⟨by omega, by omega⟩).2

end Account

end MoteTrial.Reception
