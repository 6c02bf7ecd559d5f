import Mathlib.Data.Finset.Card
import Mathlib.Data.List.Induction
import MoteTrial.Reception

/-! # Holes in a sequence of counters

The holes of a sequence are the numbers from 1 to its largest counter that never occur. Out of order
counters set the account back, so that it may jump over the same numbers more than once, but it jumps
over every hole: no fewer counters are lost than there are holes, and no more where every counter
advances.
-/

namespace MoteTrial.Reception

/-- The largest counter, or zero if none is positive. -/
def peak (counters : List Int) : Int := counters.foldl (fun highest c => max highest c) 0

/-- The numbers above `a` and up to `b`. -/
def upFrom (a b : Int) : Finset Int := (Finset.range (b - a).toNat).image fun i : Nat => a + 1 + i

/-- The numbers up to the largest counter that do not occur. -/
def holes (counters : List Int) : Finset Int :=
  (upFrom 0 (peak counters)).filter fun n => n ∉ counters

section Peak

variable {cs : List Int} {c n : Int}

theorem peak_append (cs : List Int) (c : Int) : peak (cs ++ [c]) = max (peak cs) c :=
  List.foldl_append

theorem peak_nonneg (cs : List Int) : 0 ≤ peak cs := by
  induction cs using List.reverseRecOn with
  | nil => exact Int.le_refl 0
  | append_singleton cs c ih =>
    rw [peak_append]
    omega

theorem peak_mem (cs : List Int) : peak cs ∈ 0 :: cs := by
  induction cs using List.reverseRecOn with
  | nil => exact List.mem_singleton_self 0
  | append_singleton cs c ih =>
    rw [peak_append, ← List.cons_append]
    rcases max_choice (peak cs) c with same | same
    · rw [same]
      exact List.mem_append_left _ ih
    · rw [same]
      exact List.mem_append_right _ (List.mem_singleton_self c)

theorem le_peak (member : c ∈ cs) : c ≤ peak cs := by
  induction cs using List.reverseRecOn with
  | nil => cases member
  | append_singleton cs last ih =>
    rw [peak_append]
    rcases List.mem_append.mp member with earlier | here
    · exact Int.le_trans (ih earlier) (Int.le_max_left ..)
    · rw [List.mem_singleton.mp here]
      exact Int.le_max_right ..

theorem mem_upFrom {a b : Int} : n ∈ upFrom a b ↔ a < n ∧ n ≤ b := by
  unfold upFrom
  rw [Finset.mem_image]
  constructor
  · rintro ⟨i, member, rfl⟩
    have bound := Finset.mem_range.mp member
    omega
  · rintro ⟨above, below⟩
    exact ⟨(n - a - 1).toNat, Finset.mem_range.mpr (by omega), by omega⟩

theorem card_upFrom (a b : Int) : (upFrom a b).card = (b - a).toNat := by
  have injective : Function.Injective fun i : Nat => a + 1 + (i : Int) := fun i j same => by
    have : a + 1 + (i : Int) = a + 1 + (j : Int) := same
    omega
  rw [upFrom, Finset.card_image_of_injective _ injective, Finset.card_range]

theorem mem_holes : n ∈ holes cs ↔ (1 ≤ n ∧ n ≤ peak cs) ∧ n ∉ cs := by
  rw [holes, Finset.mem_filter, mem_upFrom]
  exact Iff.rfl

end Peak

section Account

variable {cs : List Int} {c : Int}

theorem recordAll_append (r : Reception) (cs : List Int) (c : Int) :
    recordAll r (cs ++ [c]) = (recordAll r cs).record c := List.foldl_append

/-- Further counters take nothing back. -/
theorem lost_le_recordAll (r : Reception) (cs : List Int) : r.lost ≤ (recordAll r cs).lost := by
  induction cs using List.reverseRecOn with
  | nil => exact Nat.le_refl _
  | append_singleton cs c ih =>
    rw [recordAll_append]
    exact Nat.le_trans ih (lost_le_record _ c)

theorem last_le_peak (cs : List Int) : (recordAll {} cs).last ≤ peak cs := by
  induction cs using List.reverseRecOn with
  | nil => exact Int.le_refl 0
  | append_singleton cs c ih =>
    rw [recordAll_append, record_last, peak_append]
    exact Int.le_max_right ..

/-- The holes that a counter opens lie between the largest counter so far and itself. -/
theorem holes_append_subset (cs : List Int) (c : Int) :
    holes (cs ++ [c]) ⊆ holes cs ∪ upFrom (peak cs) (c - 1) := by
  intro n member
  obtain ⟨⟨positive, bounded⟩, absent⟩ := mem_holes.mp member
  rw [List.mem_append, List.mem_singleton, not_or] at absent
  rw [peak_append] at bounded
  rw [Finset.mem_union, mem_holes, mem_upFrom]
  by_cases old : n ≤ peak cs
  · exact .inl ⟨⟨positive, old⟩, absent.1⟩
  · have other : n ≠ c := absent.2
    exact .inr (by omega)

/-- The account jumps over all the holes that a counter opens, since it never stands above the largest
counter. -/
theorem card_opened_le_gap (cs : List Int) (c : Int) :
    (upFrom (peak cs) (c - 1)).card ≤ (recordAll {} cs).gap c := by
  have below := last_le_peak cs
  rw [card_upFrom, gap]
  omega

theorem card_holes_le_lost (cs : List Int) : (holes cs).card ≤ (recordAll {} cs).lost := by
  induction cs using List.reverseRecOn with
  | nil => exact Nat.le_refl 0
  | append_singleton cs c ih =>
    calc (holes (cs ++ [c])).card
        ≤ (holes cs ∪ upFrom (peak cs) (c - 1)).card := Finset.card_le_card (holes_append_subset cs c)
      _ ≤ (holes cs).card + (upFrom (peak cs) (c - 1)).card := Finset.card_union_le ..
      _ ≤ (recordAll {} cs).lost + (recordAll {} cs).gap c :=
          Nat.add_le_add ih (card_opened_le_gap cs c)
      _ = (recordAll {} (cs ++ [c])).lost := by rw [recordAll_append, record_lost]

end Account

section Advancing

variable {cs : List Int} {c : Int}

/-- A sequence of positive counters, each above the one before. -/
def Advancing (counters : List Int) : Prop := (0 :: counters).Pairwise (· < ·)

theorem advancing_iff :
    Advancing cs ↔ cs.Pairwise (· < ·) ∧ ∀ first ∈ cs.head?, 1 ≤ first := by
  unfold Advancing
  rw [List.pairwise_cons]
  constructor
  · rintro ⟨positive, ascending⟩
    exact ⟨ascending, fun first head => positive first (List.mem_of_mem_head? head)⟩
  · rintro ⟨ascending, starts⟩
    refine ⟨fun c member => ?_, ascending⟩
    cases cs with
    | nil => cases member
    | cons first rest =>
      have positive : 1 ≤ first := starts first rfl
      rcases List.mem_cons.mp member with rfl | later
      · omega
      · have above := (List.pairwise_cons.mp ascending).1 c later
        omega

theorem advancing_append (advancing : Advancing (cs ++ [c])) : Advancing cs ∧ peak cs < c := by
  unfold Advancing at advancing
  rw [← List.cons_append, List.pairwise_append] at advancing
  obtain ⟨earlier, -, below⟩ := advancing
  have above : ∀ n ∈ 0 :: cs, n < c := fun n member => below n member c (List.mem_singleton_self c)
  exact ⟨earlier, above _ (peak_mem cs)⟩

/-- A counter above all others opens every number that it jumps over. -/
theorem holes_append_of_lt (above : peak cs < c) :
    holes (cs ++ [c]) = holes cs ∪ upFrom (peak cs) (c - 1) := by
  refine (holes_append_subset cs c).antisymm fun n member => ?_
  have positive := peak_nonneg cs
  rw [mem_holes, peak_append, List.mem_append, List.mem_singleton]
  rcases Finset.mem_union.mp member with old | opened
  · obtain ⟨bounds, absent⟩ := mem_holes.mp old
    exact ⟨by omega, by rintro (here | rfl) <;> [exact absent here; omega]⟩
  · have between := mem_upFrom.mp opened
    refine ⟨by omega, ?_⟩
    rintro (here | rfl)
    · have := le_peak here
      omega
    · omega

theorem disjoint_opened (cs : List Int) (c : Int) : Disjoint (holes cs) (upFrom (peak cs) (c - 1)) := by
  rw [Finset.disjoint_left]
  intro n old opened
  have bounded := (mem_holes.mp old).1.2
  have beyond := (mem_upFrom.mp opened).1
  omega

/-- Where every counter advances, only holes are lost. -/
theorem lost_eq_card_holes (advancing : Advancing cs) :
    (recordAll {} cs).last = peak cs ∧ (recordAll {} cs).lost = (holes cs).card := by
  induction cs using List.reverseRecOn with
  | nil => exact ⟨rfl, rfl⟩
  | append_singleton cs c ih =>
    obtain ⟨earlier, above⟩ := advancing_append advancing
    obtain ⟨last, lost⟩ := ih earlier
    rw [recordAll_append, record_last, record_lost, peak_append]
    refine ⟨by omega, ?_⟩
    rw [holes_append_of_lt above, Finset.card_union_of_disjoint (disjoint_opened cs c), card_upFrom,
      lost, gap, last]
    omega

end Advancing

/-- No hole escapes the account: as many counters are lost as there are holes, or more, and exactly as
many where the counters start at 1 or above and each is above the one before; what is lost stays lost;
and success means that there are no holes. -/
theorem no_hole_missed (counters : List Int) :
    (holes counters).card ≤ (recordAll {} counters).lost ∧
      (counters.Pairwise (· < ·) → (∀ first ∈ counters.head?, 1 ≤ first) →
        (recordAll {} counters).lost = (holes counters).card) ∧
      (∀ earlier later, counters = earlier ++ later →
        (recordAll {} earlier).lost ≤ (recordAll {} counters).lost) ∧
      ((recordAll {} counters).success = true →
        ∀ n, 1 ≤ n → n ≤ peak counters → n ∈ counters) := by
  refine ⟨card_holes_le_lost counters, fun ascending starts => ?_, ?_, fun success n positive bounded => ?_⟩
  · exact (lost_eq_card_holes (advancing_iff.mpr ⟨ascending, starts⟩)).2
  · rintro earlier later rfl
    rw [recordAll, recordAll, List.foldl_append]
    exact lost_le_recordAll _ later
  · have lossless : (recordAll {} counters).lost = 0 := by
      simpa using (Bool.and_eq_true_iff.mp success).2
    have unbroken : holes counters = ∅ := by
      have counted := card_holes_le_lost counters
      exact Finset.card_eq_zero.mp (by omega)
    by_contra absent
    have hole := mem_holes.mpr ⟨⟨positive, bounded⟩, absent⟩
    rw [unbroken] at hole
    exact absurd hole (Finset.notMem_empty n)

/-- Counters that come back and jump again over what they have jumped over already; counters that only
advance; and counters that come back without a loss. -/
theorem no_hole_missed_returning :
    (holes [2, 5, 1, 4, 7]).card = 2 ∧ (recordAll {} [2, 5, 1, 4, 7]).lost = 7 ∧
      (holes [2, 5, 1, 4, 7]).card ≤ (recordAll {} [2, 5, 1, 4, 7]).lost ∧
      (recordAll {} [2, 5, 1]).lost ≤ (recordAll {} [2, 5, 1, 4, 7]).lost ∧
      (recordAll {} [2, 3, 6]).lost = (holes [2, 3, 6]).card ∧
      (recordAll {} [1, 2, 3, 3, 2, 1]).success = true ∧
      ∀ n, 1 ≤ n → n ≤ 3 → n ∈ ([1, 2, 3, 3, 2, 1] : List Int) := by
  obtain ⟨covered, -, kept, -⟩ := no_hole_missed [2, 5, 1, 4, 7]
  obtain ⟨-, equal, -⟩ := no_hole_missed [2, 3, 6]
  obtain ⟨-, -, -, complete⟩ := no_hole_missed [1, 2, 3, 3, 2, 1]
  exact ⟨by decide, by decide, covered, kept [2, 5, 1] [4, 7] rfl, equal (by decide) (by decide),
    by decide, complete (by decide)⟩

end MoteTrial.Reception
