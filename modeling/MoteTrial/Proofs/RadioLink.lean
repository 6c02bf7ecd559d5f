import MoteTrial.Medium

/-! # Changes and frames on a radio medium

What a change makes of a medium with the usual parameters, as a function that cannot fail, and the
fate of a frame on a link of a known ratio. On a link of ratio one every frame is received, whatever
the draw.
-/

namespace MoteTrial

namespace Table

variable {κ α : Type} [Ord κ] [Std.TransOrd κ] [Std.LawfulEqOrd κ]

omit [Std.TransOrd κ] in
theorem place_place (key : κ) (a b : α) (entries : List (κ × α)) :
    place key b (place key a entries) = place key b entries := by
  have same : compare key key = .eq := Std.ReflCmp.compare_self
  induction entries with
  | nil => simp only [place, same]
  | cons head rest ih =>
    obtain ⟨k, v⟩ := head
    cases order : compare key k with
    | lt => simp only [place, order, same]
    | eq => simp only [place, order, same]
    | gt => simp only [place, order, ih]

theorem put_put (t : Table κ α) (key : κ) (a b : α) : (t.put key a).put key b = t.put key b := by
  simp only [put, place_place]

end Table

namespace Binary64

theorem roundQuotient_mul {den : Nat} (positive : 0 < den) (n : Nat) :
    roundQuotient (n * den) den = n := by
  simp only [roundQuotient, Nat.mul_div_cancel _ positive, Nat.mul_mod_left, Nat.mul_zero,
    positive, ↓reduceIte]

theorem log2_mul_two_pow {n : Nat} (nonzero : n ≠ 0) (s : Nat) :
    (n * 2 ^ s).log2 = n.log2 + s := by
  have bounds := (Nat.log2_eq_iff nonzero).mp rfl
  rw [Nat.log2_eq_iff (Nat.mul_ne_zero nonzero (Nat.ne_of_gt (Nat.two_pow_pos s)))]
  constructor
  · rw [Nat.pow_add]
    exact Nat.mul_le_mul_right _ bounds.1
  · rw [show n.log2 + s + 1 = n.log2 + 1 + s by omega, Nat.pow_add]
    exact Nat.mul_lt_mul_of_pos_right bounds.2 (Nat.two_pow_pos s)

/-- A quotient of at most 53 significant bits is not rounded. -/
theorem nearest_mul_two_pow {n s : Nat} (small : n < 2 ^ 53) (wide : 52 ≤ s) (e : Nat) :
    nearest (n * 2 ^ s * 2 ^ e) (2 ^ e) = n * 2 ^ s := by
  have whole : n * 2 ^ s * 2 ^ e / 2 ^ e = n * 2 ^ s := Nat.mul_div_cancel _ (Nat.two_pow_pos e)
  by_cases zero : n = 0
  · subst zero
    simp only [nearest, Nat.zero_mul, roundQuotient, Nat.zero_div, Nat.zero_mod, Nat.mul_zero]
    split
    · rfl
    · rename_i positive
      exact absurd (Nat.mul_pos (Nat.two_pow_pos _) (Nat.two_pow_pos _)) positive
  · have width : n.log2 ≤ 52 := by
      have := (Nat.log2_lt zero).mpr small
      omega
    have surplus : surplusBits (n * 2 ^ s * 2 ^ e / 2 ^ e) = n.log2 + (s - 52) := by
      rw [whole, surplusBits, log2_mul_two_pow zero]
      omega
    have exponent : 2 ^ s = 2 ^ (52 - n.log2) * 2 ^ (n.log2 + (s - 52)) := by
      rw [← Nat.pow_add]
      congr 1
      omega
    -- the bits beyond the 53 that are kept are all zero
    have split : n * 2 ^ s * 2 ^ e = n * 2 ^ (52 - n.log2) * (2 ^ e * 2 ^ (n.log2 + (s - 52))) := by
      rw [exponent]
      simp only [Nat.mul_assoc, Nat.mul_comm, Nat.mul_left_comm]
    simp only [nearest, surplus]
    rw [split, roundQuotient_mul (Nat.mul_pos (Nat.two_pow_pos _) (Nat.two_pow_pos _)), exponent,
      Nat.mul_assoc]

theorem one_eq : one = 2 ^ 1021 * 2 ^ 53 := by decide +kernel

theorem mul_two_pow_lt {k : Nat} (small : k < 2 ^ 53) : k * 2 ^ 1021 < one :=
  calc k * 2 ^ 1021 = 2 ^ 1021 * k := Nat.mul_comm ..
    _ < 2 ^ 1021 * 2 ^ 53 := Nat.mul_lt_mul_of_pos_left small (Nat.two_pow_pos 1021)
    _ = one := one_eq.symm

theorem one_lt_overflow : one < overflow := by decide +kernel

/-- A fraction of 2 ^ 53 is held exactly. -/
theorem ofScaled_draw {k : Nat} (small : k < 2 ^ 53) :
    ofScaled k 53 = .finite false (k * 2 ^ 1021) := by
  have exact : nearest (k * one) (2 ^ 53) = k * 2 ^ 1021 := by
    have kept := nearest_mul_two_pow (s := 1021) small (by decide) 53
    rwa [Nat.mul_assoc, ← one_eq] at kept
  have bound : k * 2 ^ 1021 < overflow :=
    Nat.lt_trans (mul_two_pow_lt small) one_lt_overflow
  simp only [ofScaled, ofQuotient, exact, bound, ↓reduceIte]

theorem ofNat_one : ofNat 1 = .finite false one := by decide +kernel

end Binary64

namespace Medium

attribute [local irreducible] Binary64.one

theorem isRatio_nominal : isRatio Config.standard.nominalRatio = true := by
  simp only [isRatio, Config.standard, Binary64.ofNat_one, Binary64.zero, Binary64.le, Binary64.toUnits,
    Bool.and_eq_true]
  exact ⟨decide_eq_true (Int.natCast_nonneg _), decide_eq_true (Int.le_refl _)⟩

theorem isRatio_relay : isRatio Config.standard.relayRatio = true := by decide +kernel

/-- Every draw is below one. -/
theorem drawValue_lt_one (k : Fin (2 ^ 53)) : (drawValue k).lt (Binary64.ofNat 1) = true := by
  have below : k.val * 2 ^ 1021 < Binary64.one := Binary64.mul_two_pow_lt k.isLt
  rw [drawValue, Binary64.ofScaled_draw k.isLt, Binary64.ofNat_one]
  simp only [Binary64.lt, Binary64.toUnits]
  refine decide_eq_true ?_
  exact_mod_cast below

/-- The usual link. -/
def usualLink : Link := ⟨Config.standard.nominalRatio, Config.standard.nominalRatio, false⟩

/-- The medium once a link is changed, with the usual link in place of a missing one. -/
def changed (now : Int) (kind : Change) (a b : Int) (m : Medium) : Medium :=
  { m.setLink a b (kind.apply Config.standard ((m.link? a b).getD usualLink)) with
    mutations := m.mutations.push ⟨now, kind, a, b⟩ }

theorem change_apply (now : Int) (kind : Change) (a b : Int) (m : Medium) :
    m.change Config.standard now kind a b = .ok (m.changed now kind a b) := by
  unfold change getLink changed
  cases present : m.link? a b with
  | some link => rfl
  | none =>
    simp only [addLink, Option.getD_none, isRatio_nominal, ↓reduceIte]
    change Except.ok _ = Except.ok _
    simp only [setLink, Table.put_put]
    rfl

/-- A link that is declared is not noted as a change. -/
theorem mutations_addLink {config : Config} {a b : Int} {ratio : Option Binary64} {link : Link}
    {m m' : Medium} (added : m.addLink config a b ratio = .ok (link, m')) :
    m'.mutations = m.mutations := by
  unfold addLink at added
  simp only at added
  split at added
  · cases added
    rfl
  · cases added

/-- A change of a link is noted, whatever the links are. -/
theorem mutations_change {config : Config} {now : Int} {kind : Change} {a b : Int} {m m' : Medium}
    (changed : m.change config now kind a b = .ok m') :
    m'.mutations = m.mutations.push ⟨now, kind, a, b⟩ := by
  have kept {link : Link} {m' : Medium} (found : m.getLink config a b = .ok (link, m')) :
      m'.mutations = m.mutations := by
    unfold Medium.getLink at found
    split at found
    · cases found
      rfl
    · exact mutations_addLink found
  unfold Medium.change at changed
  cases found : m.getLink config a b with
  | error f =>
    rw [found] at changed
    cases changed
  | ok result =>
    obtain ⟨link, m₁⟩ := result
    rw [found] at changed
    cases changed
    change m₁.mutations.push _ = _
    rw [kept found]

theorem link?_setLink_self (m : Medium) (a b : Int) (link : Link) :
    (m.setLink a b link).link? a b = some link := Table.find?_put_self ..

theorem link?_setLink_of_ne {a b c d : Int} (other : Pair.of c d ≠ Pair.of a b) (m : Medium)
    (link : Link) : (m.setLink a b link).link? c d = m.link? c d :=
  Table.find?_put_of_ne _ _ other

/-- On a dead link no frame is received and nothing is drawn. -/
theorem transmit_dead {m : Medium} {a b : Int} {link : Link} (present : m.link? a b = some link)
    (dead : link.current.le Binary64.zero = true) : m.transmit a b = (false, m) := by
  simp only [transmit, present, dead, ↓reduceIte]

/-- On a live link one draw decides. -/
theorem transmit_live {m : Medium} {a b : Int} {link : Link} (present : m.link? a b = some link)
    (live : link.current.le Binary64.zero = false) :
    m.transmit a b =
      ((drawValue m.draws.next.1).lt link.current, { m with draws := m.draws.next.2 }) := by
  simp only [transmit, present, live, Bool.false_eq_true, ↓reduceIte]

/-- Every frame on a usual link is received. -/
theorem transmit_usual {m : Medium} {a b : Int} (present : m.link? a b = some usualLink) :
    (m.transmit a b).1 = true := by
  have certain : usualLink.current = Binary64.ofNat 1 := by simp only [usualLink, Config.standard]
  have live : usualLink.current.le Binary64.zero = false := by
    rw [certain, Binary64.ofNat_one]
    exact decide_eq_false (Int.not_le.mpr (Int.natCast_pos.mpr Binary64.one_pos))
  rw [transmit_live present live, certain]
  simp only [drawValue_lt_one]

end Medium

end MoteTrial
