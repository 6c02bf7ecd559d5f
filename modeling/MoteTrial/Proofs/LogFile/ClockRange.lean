import MoteTrial.Proofs.Text.LogText

/-! # Clock values in range

A clock value is out of range only if it is long: as long as its text has at most `timeLimit`
characters, every number on the way to its milliseconds is finite. The bounds are crude. A rounding at
most doubles a number and adds one, and the double-precision range leaves room for that.
-/

namespace MoteTrial

namespace Binary64

/-- A rounding at most doubles a number and adds one unit. -/
theorem nearest_le (num den : Nat) : nearest num den ≤ 2 * (num / den) + 1 := by
  let step := 2 ^ surplusBits (num / den)
  have rounded : roundQuotient num (den * step) ≤ num / den / step + 1 := by
    rw [Nat.div_div_eq_div_mul]
    unfold roundQuotient
    dsimp only
    split
    · omega
    · split
      · omega
      · split <;> omega
  have kept : num / den / step * step ≤ num / den := Nat.div_mul_le_self _ _
  have small : step ≤ num / den + 1 := by
    by_cases zero : num / den = 0
    · have none : step = 1 := by simp only [step, surplusBits, zero]; rfl
      omega
    · have below : 2 ^ surplusBits (num / den) ≤ 2 ^ (num / den).log2 :=
        Nat.pow_le_pow_right (by decide) (Nat.sub_le _ _)
      have := Nat.log2_self_le zero
      omega
  calc nearest num den = roundQuotient num (den * step) * step := rfl
    _ ≤ (num / den / step + 1) * step := Nat.mul_le_mul_right _ rounded
    _ = num / den / step * step + step := Nat.succ_mul _ _
    _ ≤ 2 * (num / den) + 1 := by omega

/-- The least natural number that is beyond the double-precision range. -/
def beyond : Nat := 2 ^ 1024

theorem overflow_eq : overflow = beyond * one := by decide +kernel

theorem ofNat_thousand : ofNat 1000 = .finite false (1000 * one) := by decide +kernel

attribute [local irreducible] one overflow beyond

/-- A finite number of limited size. -/
def AtMost (x : Binary64) (limit : Nat) : Prop :=
  ∃ negative units, x = .finite negative units ∧ units ≤ limit * one

theorem AtMost.isFinite {x : Binary64} {limit : Nat} (bounded : x.AtMost limit) :
    x.isFinite = true := by
  obtain ⟨negative, units, rfl, -⟩ := bounded
  rfl

theorem ofQuotient_atMost {num den limit : Nat} (bound : num / den ≤ limit * one)
    (inRange : 2 * limit + 1 < beyond) (negative : Bool) :
    (ofQuotient negative num den).AtMost (2 * limit + 1) := by
  have rounded : nearest num den ≤ (2 * limit + 1) * one := by
    have := nearest_le num den
    have := one_pos
    rw [Nat.add_mul, Nat.mul_assoc]
    omega
  have finite : nearest num den < overflow := by
    rw [overflow_eq]
    exact Nat.lt_of_le_of_lt rounded (Nat.mul_lt_mul_of_pos_right inRange one_pos)
  refine ⟨negative, nearest num den, ?_, rounded⟩
  simp only [ofQuotient, finite, ↓reduceIte]

theorem ofInt_atMost {n : Int} {limit : Nat} (bound : n.natAbs ≤ limit)
    (inRange : 2 * limit + 1 < beyond) : (ofInt n).AtMost (2 * limit + 1) := by
  refine ofQuotient_atMost ?_ inRange _
  rw [Nat.div_one]
  exact Nat.mul_le_mul_right _ bound

theorem AtMost.add {x y : Binary64} {a b : Nat} (left : x.AtMost a) (right : y.AtMost b)
    (inRange : 2 * (a + b) + 1 < beyond) : (x.add y).AtMost (2 * (a + b) + 1) := by
  obtain ⟨s, m, rfl, small⟩ := left
  obtain ⟨t, n, rfl, small'⟩ := right
  have size : (toUnits (.finite s m) + toUnits (.finite t n)).natAbs ≤ (a + b) * one := by
    rw [Nat.add_mul]
    cases s <;> cases t <;> simp only [toUnits] <;> omega
  change (ofUnits (s && t) _).AtMost _
  rw [ofUnits]
  split
  · exact ⟨_, 0, rfl, Nat.zero_le _⟩
  · refine ofQuotient_atMost ?_ inRange _
    rwa [Nat.div_one]

theorem AtMost.thousandfold {x : Binary64} {limit : Nat} (bounded : x.AtMost limit)
    (inRange : 2 * (limit * 1000) + 1 < beyond) :
    (x.mul (ofNat 1000)).AtMost (2 * (limit * 1000) + 1) := by
  obtain ⟨negative, units, rfl, bound⟩ := bounded
  rw [ofNat_thousand]
  change (ofQuotient _ (units * (1000 * one)) one).AtMost _
  refine ofQuotient_atMost ?_ inRange _
  rw [← Nat.mul_assoc, Nat.mul_div_cancel _ one_pos, Nat.mul_right_comm]
  exact Nat.mul_le_mul_right _ bound

end Binary64

namespace Numeral

open Text

/-- The digits and the point of an unsigned fraction are all that is read of it. -/
theorem readFloat?_plain {cs : List Char} (plain : ∀ c ∈ cs, c ∈ asciiDigits ∨ c = '.') :
    readFloat? cs = readMagnitude? false cs := by
  have holds {p : Char → Prop} (digit : ∀ c ∈ asciiDigits, p c) (point : p '.') : ∀ c ∈ cs, p c :=
    fun c member => (plain c member).elim (digit c) fun same => same ▸ point
  have ascii : asciiForm cs = cs := by
    rw [asciiForm, if_pos]
    exact List.all_eq_true.mpr (holds (forall_mem_asciiDigits.mpr (by decide)) (by decide))
  have visible : ∀ c ∈ cs, isAsciiBlank c = false :=
    holds (forall_mem_asciiDigits.mpr (by decide)) (by decide)
  have trimmed : trimWhere isAsciiBlank cs = cs := by
    rw [trimWhere, dropWhile_of_none visible, dropWhile_of_none, List.reverse_reverse]
    exact fun c member => visible c (List.mem_reverse.mp member)
  have solid : ∀ c ∈ cs, c ≠ '_' := holds (forall_mem_asciiDigits.mpr (by decide)) (by decide)
  have ungrouped : ∀ previous, previous ≠ '_' → dropUnderscores? previous cs = some cs := by
    clear plain holds ascii visible trimmed
    induction cs with
    | nil => intro previous other; simp only [dropUnderscores?, other, ↓reduceIte]
    | cons c rest ih =>
      intro previous other
      have here := solid c (List.mem_cons_self ..)
      have later := ih (fun d member => solid d (List.mem_cons_of_mem _ member)) c here
      simp only [dropUnderscores?, here, other, later, decide_false, Bool.false_and,
        Bool.false_eq_true, ↓reduceIte, Option.map_some]
  have unsigned : splitSign cs = (false, cs) := by
    have signless : ∀ c ∈ cs, c ≠ '-' ∧ c ≠ '+' :=
      holds (forall_mem_asciiDigits.mpr (by decide)) (by decide)
    unfold splitSign
    split
    · exact absurd rfl (signless _ (List.mem_cons_self ..)).1
    · exact absurd rfl (signless _ (List.mem_cons_self ..)).2
    · rfl
  unfold readFloat?
  simp only [ascii, trimmed, ungrouped ' ' (by decide), unsigned, Option.bind_eq_bind, Option.bind_some]

theorem readExponent?_plain {cs : List Char} (plain : ∀ c ∈ cs, c ∈ asciiDigits ∨ c = '.')
    {exponent : Int} (read : readExponent? cs = some exponent) : exponent = 0 := by
  cases cs with
  | nil => exact (Option.some.inj read).symm
  | cons c rest =>
    have digit : ∀ c ∈ asciiDigits, ¬(c = 'e' || c = 'E') := forall_mem_asciiDigits.mpr (by decide)
    have noMark : ¬(c = 'e' || c = 'E') :=
      (plain c (List.mem_cons_self ..)).elim (digit c) fun same => by rw [same]; decide
    rw [readExponent?, if_neg noMark] at read
    cases read

theorem splitDigits_parts (cs : List Char) :
    (splitDigits cs).1.length + (splitDigits cs).2.length = cs.length ∧
      ∀ c ∈ (splitDigits cs).2, c ∈ cs := by
  constructor
  · rw [splitDigits, ← List.length_append, List.takeWhile_append_dropWhile]
  · exact fun c member => (List.dropWhile_sublist _).mem member

/-- The digits and the point of a fraction name no number. -/
theorem lower_ne_name {cs : List Char} (plain : ∀ c ∈ cs, c ∈ asciiDigits ∨ c = '.') {first : Char}
    (name : first = 'n' ∨ first = 'i') {rest : List Char} : cs.map Char.toLower ≠ first :: rest := by
  have digit : ∀ c ∈ asciiDigits, c.toLower ≠ 'n' ∧ c.toLower ≠ 'i' :=
    forall_mem_asciiDigits.mpr (by decide)
  have letterless : ∀ c ∈ cs.map Char.toLower, c ≠ 'n' ∧ c ≠ 'i' := by
    intro c member
    obtain ⟨d, here, rfl⟩ := List.mem_map.mp member
    exact (plain d here).elim (digit d) fun same => by rw [same]; decide
  intro same
  have none := letterless first (same ▸ List.mem_cons_self ..)
  exact name.elim none.1 none.2

/-- An unsigned fraction without an exponent is a row of digits with a number of places. -/
theorem readMagnitude?_plain {cs : List Char} (plain : ∀ c ∈ cs, c ∈ asciiDigits ∨ c = '.')
    {x : Binary64} (read : readMagnitude? false cs = some x) :
    ∃ (digits : List Char) (places : Nat), digits.length ≤ cs.length ∧
      x = nearestDecimal false digits (0 - (places : Int)) := by
  unfold readMagnitude? at read
  simp only [lower_ne_name plain (.inl rfl), lower_ne_name plain (.inr rfl), decide_false, Bool.or_self,
    Bool.false_eq_true, ↓reduceIte] at read
  obtain ⟨size, inside⟩ := splitDigits_parts cs
  generalize splitDigits cs = parts at read size inside
  obtain ⟨whole, afterWhole⟩ := parts
  have settle {fraction rest : List Char} (short : whole.length + fraction.length ≤ cs.length)
      (among : ∀ c ∈ rest, c ∈ cs)
      (value : (if whole.isEmpty && fraction.isEmpty then none
        else (readExponent? rest).map fun exponent =>
          nearestDecimal false (whole ++ fraction) (exponent - fraction.length)) = some x) :
      ∃ (digits : List Char) (places : Nat), digits.length ≤ cs.length ∧
        x = nearestDecimal false digits (0 - (places : Int)) := by
    split at value
    · cases value
    · obtain ⟨exponent, exponentRead, rfl⟩ := Option.map_eq_some_iff.mp value
      have zero := readExponent?_plain (fun c member => plain c (among c member)) exponentRead
      exact ⟨whole ++ fraction, fraction.length, by rwa [List.length_append], by rw [zero]⟩
  split at read
  case h_1 tail point =>
    obtain ⟨size', inside'⟩ := splitDigits_parts tail
    have lengths : afterWhole.length = tail.length + 1 := congrArg List.length point
    refine settle (by simp only at size; omega) (fun c member => inside c ?_) read
    exact point ▸ List.mem_cons_of_mem _ (inside' c member)
  case h_2 => exact settle (by simp only at size; simp; omega) inside read

/-- A number of few digits is of limited size. -/
theorem nearestDecimal_atMost {digits : List Char} {limit : Nat} (short : digits.length ≤ limit)
    (few : limit ≤ 400) (places : Nat) (inRange : 2 * 10 ^ limit + 1 < Binary64.beyond) :
    (nearestDecimal false digits (0 - (places : Int))).AtMost (2 * 10 ^ limit + 1) := by
  have significant : (digits.dropWhile (· == '0')).length ≤ limit :=
    Nat.le_trans (List.dropWhile_sublist _).length_le short
  have value : digitsValue (digits.dropWhile (· == '0')) ≤ 10 ^ limit :=
    Nat.le_of_lt (Nat.lt_of_lt_of_le (digitsValue_lt _) (Nat.pow_le_pow_right (by decide) significant))
  unfold nearestDecimal
  dsimp only
  split
  · exact ⟨false, 0, rfl, Nat.zero_le _⟩
  · split
    · omega
    · split
      · have whole : (0 - (places : Int)).toNat = 0 := by omega
        refine Binary64.ofQuotient_atMost ?_ inRange _
        rw [whole, Nat.pow_zero, Nat.mul_one, Nat.div_one]
        exact Nat.mul_le_mul_right _ value
      · refine Binary64.ofQuotient_atMost ?_ inRange _
        exact Nat.le_trans (Nat.div_le_self _ _) (Nat.mul_le_mul_right _ value)

end Numeral

namespace LogFile

open Text Numeral

/-- The number of characters up to which a clock value is in range. -/
def timeLimit : Nat := 300

/-- A bound of the numbers in the fields of such a clock value. -/
def fieldBound : Nat := 10 ^ timeLimit

/-- A bound of the minutes of a clock value in seconds, of their sum with the seconds, and of the
milliseconds, when each rounding may double a number. -/
def wholeBound (fields : Nat) : Nat := 2 * (3660 * fields) + 1

@[inherit_doc wholeBound]
def sumBound (fields : Nat) : Nat := 2 * (wholeBound fields + (2 * fields + 1)) + 1

@[inherit_doc wholeBound]
def totalBound (fields : Nat) : Nat := 2 * (sumBound fields * 1000) + 1

theorem wholeBound_le (fields : Nat) : wholeBound fields ≤ sumBound fields := by
  rw [sumBound]
  omega

theorem sumBound_le (fields : Nat) : sumBound fields ≤ totalBound fields := by
  rw [totalBound]
  omega

theorem totalBound_lt : totalBound fieldBound < Binary64.beyond := by decide +kernel

attribute [local irreducible] Binary64.one Binary64.overflow Binary64.beyond fieldBound

theorem ok_bind {ε α β : Type} (a : α) (f : α → Except ε β) : (Except.ok a >>= f) = f a := rfl

/-- A sequence fails in its first part or after it. -/
theorem bind_eq_error {ε α β : Type} {x : Except ε α} {f : α → Except ε β} {e : ε}
    (failed : (x >>= f) = .error e) : x = .error e ∨ ∃ a, x = .ok a ∧ f a = .error e := by
  cases x with
  | ok a => exact .inr ⟨a, rfl, failed⟩
  | error e' =>
    cases failed
    exact .inl rfl

/-- What a field of a text may be: a part of it without colons. -/
theorem splitColon_field {cs field : List Char}
    (member : field ∈ (splitColon cs).1 :: (splitColon cs).2) :
    field.length ≤ cs.length ∧ ∀ c ∈ field, c ∈ cs ∧ c ≠ ':' := by
  induction cs generalizing field with
  | nil =>
    rw [List.mem_singleton.mp member]
    exact ⟨Nat.le_refl _, List.forall_mem_nil _⟩
  | cons c rest ih =>
    have later {field : List Char} (member : field ∈ (splitColon rest).1 :: (splitColon rest).2) :
        field.length ≤ rest.length + 1 ∧ ∀ d ∈ field, d ∈ c :: rest ∧ d ≠ ':' :=
      ⟨Nat.le_succ_of_le (ih member).1, fun d inside =>
        ⟨List.mem_cons_of_mem _ ((ih member).2 d inside).1, ((ih member).2 d inside).2⟩⟩
    by_cases colon : c = ':'
    · simp only [splitColon, colon, ↓reduceIte] at member
      rcases List.mem_cons.mp member with rfl | member
      · exact ⟨Nat.zero_le _, List.forall_mem_nil _⟩
      · exact later member
    · simp only [splitColon, colon, ↓reduceIte] at member
      rcases List.mem_cons.mp member with rfl | member
      · obtain ⟨short, inside⟩ := ih (List.mem_cons_self ..)
        refine ⟨Nat.succ_le_succ short, fun d member => ?_⟩
        rcases List.mem_cons.mp member with rfl | member
        · exact ⟨List.mem_cons_self .., colon⟩
        · exact (later (List.mem_cons_self ..)).2 d member
      · exact later (List.mem_cons_of_mem _ member)

theorem readFloat_ofList {cs : List Char} {x : Binary64} (read : readFloat? cs = some x) :
    readFloat (String.ofList cs) = .ok x := by
  rw [readFloat, String.toList_ofList, read]

theorem readInt_ofList {cs : List Char} {n : Int} (read : Numeral.readInt cs = .ok n) :
    MoteTrial.readInt (String.ofList cs) = .ok n := by
  rw [MoteTrial.readInt, String.toList_ofList, read]

theorem readTime_pair {text : String} {first second : List Char} {minutes : Int}
    {seconds : Binary64} (parts : splitColon text.toList = (first, [second]))
    (secondsRead : readFloat (String.ofList second) = .ok seconds)
    (minutesRead : MoteTrial.readInt (String.ofList first) = .ok minutes) :
    readTime text = clockTime 0 minutes seconds := by
  rw [readTime, parts]
  change (readFloat (String.ofList second) >>= fun seconds =>
    MoteTrial.readInt (String.ofList first) >>= fun minutes => clockTime 0 minutes seconds) = _
  rw [secondsRead, ok_bind, minutesRead, ok_bind]

theorem readTime_triple {text : String} {first second third : List Char} {minutes : Int}
    {seconds : Binary64} (parts : splitColon text.toList = (first, [second, third]))
    (secondsRead : readFloat (String.ofList third) = .ok seconds)
    (minutesRead : MoteTrial.readInt (String.ofList second) = .ok minutes) :
    readTime text = MoteTrial.readInt (String.ofList first) >>= fun hours =>
      clockTime hours minutes seconds := by
  rw [readTime, parts]
  change (readFloat (String.ofList third) >>= fun seconds =>
    MoteTrial.readInt (String.ofList second) >>= fun minutes =>
      MoteTrial.readInt (String.ofList first) >>= fun hours => clockTime hours minutes seconds) = _
  rw [secondsRead, ok_bind, minutesRead, ok_bind]

theorem clockTime_of_finite {hours minutes : Int} {seconds : Binary64}
    (finite : (Binary64.ofInt ((hours * 60 + minutes) * 60)).isFinite = true) :
    clockTime hours minutes seconds =
      toNearest (((Binary64.ofInt ((hours * 60 + minutes) * 60)).add seconds).mul
        (Binary64.ofNat 1000)) := by
  have converted : toDouble ((hours * 60 + minutes) * 60) =
      .ok (Binary64.ofInt ((hours * 60 + minutes) * 60)) := if_pos finite
  rw [clockTime, converted, ok_bind]

theorem toNearest_finite {x : Binary64} (finite : x.isFinite = true) : ∃ n, toNearest x = .ok n := by
  cases x with
  | finite negative units => exact ⟨_, rfl⟩
  | infinite => cases finite
  | nan => cases finite

/-- A clock value of short fields is in range. -/
theorem clockTime_inRange {hours minutes : Int} {seconds : Binary64}
    (fewHours : hours.natAbs ≤ fieldBound) (fewMinutes : minutes.natAbs ≤ fieldBound)
    (fewSeconds : seconds.AtMost (2 * fieldBound + 1)) :
    ∃ time, clockTime hours minutes seconds = .ok time := by
  have sumSmall : sumBound fieldBound < Binary64.beyond :=
    Nat.lt_of_le_of_lt (sumBound_le _) totalBound_lt
  have whole : ((hours * 60 + minutes) * 60).natAbs ≤ 3660 * fieldBound := by
    generalize fieldBound = limit at fewHours fewMinutes
    omega
  have minutesBounded : (Binary64.ofInt _).AtMost (wholeBound fieldBound) :=
    Binary64.ofInt_atMost whole (Nat.lt_of_le_of_lt (wholeBound_le _) sumSmall)
  have sumBounded : (Binary64.add _ _).AtMost (sumBound fieldBound) :=
    minutesBounded.add fewSeconds sumSmall
  have milliseconds := sumBounded.thousandfold totalBound_lt
  obtain ⟨time, read⟩ := toNearest_finite milliseconds.isFinite
  exact ⟨time, by rw [clockTime_of_finite minutesBounded.isFinite, read]⟩

/-- An integer that cannot be read is not out of range. -/
theorem not_isOverflow_readInt {text : String} {f : Failure}
    (failed : MoteTrial.readInt text = .error f) : ¬f.isOverflow = true := by
  unfold MoteTrial.readInt at failed
  split at failed <;> cases failed <;> exact Bool.false_ne_true

theorem not_isOverflow_readFloat {text : String} {f : Failure}
    (failed : readFloat text = .error f) : ¬f.isOverflow = true := by
  unfold readFloat at failed
  split at failed <;> cases failed
  exact Bool.false_ne_true

/-- A field of a clock value of limited length: its integer, if it is one, is limited too. -/
theorem natAbs_le_of_field {field : List Char} {n : Int} (short : field.length ≤ timeLimit)
    (read : MoteTrial.readInt (String.ofList field) = .ok n) : n.natAbs ≤ fieldBound := by
  unfold MoteTrial.readInt at read
  rw [String.toList_ofList] at read
  split at read
  · rename_i value
    cases read
    have below := Nat.lt_of_lt_of_le (natAbs_lt_of_readInt value)
      (Nat.pow_le_pow_right (by decide : 0 < 10) short)
    rw [fieldBound]
    exact Nat.le_of_lt below
  · cases read
  · cases read

theorem atMost_of_field {field : List Char} {x : Binary64} (short : field.length ≤ timeLimit)
    (plain : ∀ c ∈ field, c ∈ asciiDigits ∨ c = '.')
    (read : readFloat (String.ofList field) = .ok x) : x.AtMost (2 * fieldBound + 1) := by
  unfold readFloat at read
  rw [String.toList_ofList, readFloat?_plain plain] at read
  split at read
  · rename_i value
    cases read
    obtain ⟨digits, places, few, rfl⟩ := readMagnitude?_plain plain value
    rw [fieldBound]
    exact nearestDecimal_atMost (Nat.le_trans few short) (by decide) places (by decide +kernel)
  · cases read

theorem isTimeChar_cases {c : Char} (timely : isTimeChar c = true) :
    c ∈ asciiDigits ∨ c = '.' ∨ c = ':' := by
  simp only [isTimeChar, Bool.or_eq_true, beq_iff_eq] at timely
  rcases timely with (digit | colon) | point
  · refine .inl (mem_asciiDigits ?_)
    unfold asciiDigitValue? at digit
    split at digit
    · rename_i range
      rw [Bool.and_eq_true, decide_eq_true_eq, decide_eq_true_eq] at range
      exact Bool.and_eq_true_iff.mpr ⟨decide_eq_true range.1, decide_eq_true range.2⟩
    · cases digit
  · exact .inr (.inr colon)
  · exact .inr (.inl point)

/-- A time is out of range only if it is a clock value and long. -/
theorem readTime_overflow {text : String} {f : Failure}
    (timely : ∀ c ∈ text.toList, isTimeChar c = true) (failed : readTime text = .error f)
    (overflow : f.isOverflow = true) : ':' ∈ text.toList ∧ timeLimit < text.toList.length := by
  have clock : ':' ∈ text.toList := by
    refine Decidable.byContradiction fun plain => ?_
    rw [readTime, splitColon_plain plain] at failed
    exact not_isOverflow_readInt failed overflow
  refine ⟨clock, Nat.lt_of_not_le fun short => ?_⟩
  have bounded (field : List Char)
      (member : field ∈ (splitColon text.toList).1 :: (splitColon text.toList).2) :
      field.length ≤ timeLimit ∧ ∀ c ∈ field, c ∈ asciiDigits ∨ c = '.' := by
    obtain ⟨part, inside⟩ := splitColon_field member
    refine ⟨Nat.le_trans part short, fun c here => ?_⟩
    rcases isTimeChar_cases (timely c (inside c here).1) with digit | point | colon
    · exact .inl digit
    · exact .inr point
    · exact absurd colon (inside c here).2
  have inRange {hours minutes : Int} {seconds : Binary64} (fewHours : hours.natAbs ≤ fieldBound)
      (fewMinutes : minutes.natAbs ≤ fieldBound) (fewSeconds : seconds.AtMost (2 * fieldBound + 1))
      (failed : clockTime hours minutes seconds = .error f) : False := by
    obtain ⟨time, read⟩ := clockTime_inRange fewHours fewMinutes fewSeconds
    rw [read] at failed
    cases failed
  rw [readTime] at failed
  -- by the number of fields
  rcases parts : splitColon text.toList with ⟨first, _ | ⟨second, _ | ⟨third, _ | ⟨fourth, rest⟩⟩⟩⟩
  · rw [parts] at failed
    exact not_isOverflow_readInt failed overflow
  · rw [parts] at failed bounded
    obtain ⟨minutesShort, -⟩ := bounded first (by simp)
    obtain ⟨secondsShort, secondsPlain⟩ := bounded second (by simp)
    rcases bind_eq_error failed with failed | ⟨seconds, secondsRead, failed⟩
    · exact not_isOverflow_readFloat failed overflow
    rcases bind_eq_error failed with failed | ⟨minutes, minutesRead, failed⟩
    · exact not_isOverflow_readInt failed overflow
    exact inRange (Nat.zero_le _) (natAbs_le_of_field minutesShort minutesRead)
      (atMost_of_field secondsShort secondsPlain secondsRead) failed
  · rw [parts] at failed bounded
    obtain ⟨hoursShort, -⟩ := bounded first (by simp)
    obtain ⟨minutesShort, -⟩ := bounded second (by simp)
    obtain ⟨secondsShort, secondsPlain⟩ := bounded third (by simp)
    rcases bind_eq_error failed with failed | ⟨seconds, secondsRead, failed⟩
    · exact not_isOverflow_readFloat failed overflow
    rcases bind_eq_error failed with failed | ⟨minutes, minutesRead, failed⟩
    · exact not_isOverflow_readInt failed overflow
    rcases bind_eq_error failed with failed | ⟨hours, hoursRead, failed⟩
    · exact not_isOverflow_readInt failed overflow
    exact inRange (natAbs_le_of_field hoursShort hoursRead)
      (natAbs_le_of_field minutesShort minutesRead)
      (atMost_of_field secondsShort secondsPlain secondsRead) failed
  · rw [parts] at failed
    cases failed
    cases overflow

end LogFile

end MoteTrial
