import MoteTrial.Proofs.LogFile.ClockRange

/-! # Exactness of clock values

A clock value is read in double precision: its minutes, its seconds, their sum and the milliseconds are
rounded, each by half of what separates neighbouring numbers at most. Below 10 ^ 15 milliseconds these
errors together stay under a quarter of a millisecond, so that the nearest millisecond is the one that
was written: `readTime_text`.
-/

namespace MoteTrial

/-- Two numbers are at most so far apart. -/
structure Near (a b error : Nat) : Prop where
  above : a ≤ b + error
  below : b ≤ a + error

theorem Near.of_mul {a b error factor : Nat} (near : Near (a * factor) (b * factor) (error * factor))
    (pos : 0 < factor) : Near a b error := by
  obtain ⟨above, below⟩ := near
  rw [← Nat.add_mul] at above below
  exact ⟨Nat.le_of_mul_le_mul_right above pos, Nat.le_of_mul_le_mul_right below pos⟩

theorem Near.mul {a b error : Nat} (near : Near a b error) (factor : Nat) :
    Near (a * factor) (b * factor) (error * factor) := by
  constructor
  · rw [← Nat.add_mul]
    exact Nat.mul_le_mul_right _ near.above
  · rw [← Nat.add_mul]
    exact Nat.mul_le_mul_right _ near.below

theorem Near.add {a b c d error error' : Nat} (near : Near a b error) (near' : Near c d error') :
    Near (a + c) (b + d) (error + error') := by
  obtain ⟨above, below⟩ := near
  obtain ⟨above', below'⟩ := near'
  constructor <;> omega

theorem Near.trans {a b c error error' : Nat} (near : Near a b error) (near' : Near b c error') :
    Near a c (error + error') := by
  obtain ⟨above, below⟩ := near
  obtain ⟨above', below'⟩ := near'
  constructor <;> omega

theorem Near.mono {a b error error' : Nat} (near : Near a b error) (coarser : error ≤ error') :
    Near a b error' := by
  obtain ⟨above, below⟩ := near
  constructor <;> omega

/-- Rounding a quotient to a whole number misses it by a half at most. -/
theorem roundQuotient_near (num : Nat) {den : Nat} (pos : 0 < den) :
    Near (2 * (roundQuotient num den * den)) (2 * num) den := by
  have parts := Nat.div_add_mod num den
  have small := Nat.mod_lt num pos
  have next : (num / den + 1) * den = num / den * den + den := Nat.succ_mul _ _
  rw [Nat.mul_comm] at parts
  unfold roundQuotient
  dsimp only
  split
  · constructor <;> omega
  · split
    · constructor <;> omega
    · split <;> constructor <;> omega

/-- A quotient is rounded to the whole number that it misses by less than a half. -/
theorem roundQuotient_eq {num den n error : Nat} (near : Near num (n * den) error)
    (small : 2 * error < den) : roundQuotient num den = n := by
  obtain ⟨above, below⟩ := near
  obtain ⟨roundedAbove, roundedBelow⟩ := roundQuotient_near num (Nat.zero_lt_of_lt small)
  have notMore : roundQuotient num den * den < (n + 1) * den := by
    rw [Nat.succ_mul]
    omega
  have notLess : n * den < (roundQuotient num den + 1) * den := by
    rw [Nat.succ_mul]
    omega
  have := Nat.lt_of_mul_lt_mul_right notMore
  have := Nat.lt_of_mul_lt_mul_right notLess
  omega

namespace Binary64

/-- What rounding may change of a number below one: 2 ^ -54. -/
def roundoff : Nat := 2 ^ 1020

theorem one_eq_roundoff : one = 2 ^ 54 * roundoff := by decide +kernel

attribute [local irreducible] one overflow beyond roundoff

theorem two_pow_mul_one (bits : Nat) : 2 ^ bits * one = 2 ^ (bits + 1074) := by rw [one, Nat.pow_add]

theorem two_pow_mul_roundoff (bits : Nat) : 2 ^ bits * roundoff = 2 ^ (bits + 1020) := by
  rw [roundoff, Nat.pow_add]

/-- A number of few bits before the point keeps all bits of its fraction but the last ones. -/
theorem surplusBits_le {units bits : Nat} (small : units < 2 ^ bits * one) :
    surplusBits units ≤ bits + 1021 := by
  unfold surplusBits
  by_cases zero : units = 0
  · rw [zero, Nat.log2_zero]
    omega
  · rw [two_pow_mul_one] at small
    have := (Nat.log2_lt zero).mpr small
    omega

/-- Rounding changes a quotient below 2 ^ `bits` by at most 2 ^ `bits` times `roundoff`. -/
theorem nearest_near {num den bits : Nat} (pos : 0 < den) (small : num / den < 2 ^ bits * one) :
    Near (nearest num den * den) num (2 ^ bits * roundoff * den) := by
  let step := 2 ^ surplusBits (num / den)
  have fine : step ≤ 2 * (2 ^ bits * roundoff) := by
    calc step ≤ 2 ^ (bits + 1020 + 1) := Nat.pow_le_pow_right Nat.two_pos (surplusBits_le small)
      _ = 2 * (2 ^ bits * roundoff) := by rw [Nat.pow_succ, Nat.mul_comm, two_pow_mul_roundoff]
  have rounded := roundQuotient_near num (Nat.mul_pos pos (Nat.two_pow_pos (surplusBits (num / den))))
  have product : nearest num den * den = roundQuotient num (den * step) * (den * step) := by
    change roundQuotient num (den * step) * step * den = _
    rw [Nat.mul_assoc, Nat.mul_comm step den]
  have scaled : den * step ≤ 2 * (2 ^ bits * roundoff * den) := by
    rw [← Nat.mul_assoc, Nat.mul_comm _ den]
    exact Nat.mul_le_mul_left den fine
  change Near (2 * (roundQuotient num (den * step) * (den * step))) (2 * num) (den * step) at rounded
  rw [← product] at rounded
  obtain ⟨above, below⟩ := rounded
  constructor <;> omega

/-- A quotient in range is rounded to a finite number near it. -/
theorem ofQuotient_near {num den bits : Nat} (pos : 0 < den) (small : num / den < 2 ^ bits * one)
    (inRange : bits ≤ 1022) (negative : Bool) :
    ∃ units, ofQuotient negative num den = .finite negative units ∧
      Near (units * den) num (2 ^ bits * roundoff * den) := by
  have finite : nearest num den < overflow := by
    have bound := nearest_le num den
    have room : 2 ^ bits * one * 2 ≤ overflow := by
      have exponents : bits + 1 ≤ 1024 := by omega
      have few := Nat.pow_le_pow_right Nat.two_pos exponents
      rw [← beyond] at few
      rw [overflow_eq, Nat.mul_right_comm, ← Nat.pow_succ]
      exact Nat.mul_le_mul_right _ few
    omega
  exact ⟨nearest num den, if_pos finite, nearest_near pos small⟩

theorem add_near {a b bits : Nat} (small : a + b < 2 ^ bits * one) (inRange : bits ≤ 1022) :
    ∃ units, (finite false a).add (.finite false b) = .finite false units ∧
      Near units (a + b) (2 ^ bits * roundoff) := by
  change ∃ units, ofUnits false ((a : Int) + (b : Int)) = _ ∧ _
  rw [← Int.natCast_add, ofUnits]
  split
  · rename_i zero
    rw [Int.natCast_eq_zero.mp zero]
    exact ⟨0, rfl, Nat.zero_le _, Nat.zero_le _⟩
  · have positive : ¬((a + b : Nat) : Int) < 0 := Int.not_lt.mpr (Int.natCast_nonneg _)
    have below : (a + b) / 1 < 2 ^ bits * one := by rwa [Nat.div_one]
    obtain ⟨units, rounded, near⟩ := ofQuotient_near Nat.one_pos below inRange false
    rw [Nat.mul_one, Nat.mul_one] at near
    rw [decide_eq_false positive, Int.natAbs_natCast]
    exact ⟨units, rounded, near⟩

theorem thousandfold_near {a bits : Nat} (small : a * 1000 < 2 ^ bits * one)
    (inRange : bits ≤ 1022) :
    ∃ units, (finite false a).mul (ofNat 1000) = .finite false units ∧
      Near units (a * 1000) (2 ^ bits * roundoff) := by
  rw [ofNat_thousand]
  change ∃ units, ofQuotient false (a * (1000 * one)) one = _ ∧ _
  rw [← Nat.mul_assoc]
  have below : a * 1000 * one / one < 2 ^ bits * one := by rwa [Nat.mul_div_cancel _ one_pos]
  obtain ⟨units, rounded, near⟩ := ofQuotient_near one_pos below inRange false
  exact ⟨units, rounded, near.of_mul one_pos⟩

theorem ofInt_near {n bits : Nat} (small : n < 2 ^ bits) (inRange : bits ≤ 1022) :
    ∃ units, ofInt n = .finite false units ∧ Near units (n * one) (2 ^ bits * roundoff) := by
  have below : n * one / 1 < 2 ^ bits * one := by
    rw [Nat.div_one]
    exact Nat.mul_lt_mul_of_pos_right small one_pos
  obtain ⟨units, rounded, near⟩ := ofQuotient_near Nat.one_pos below inRange false
  rw [Nat.mul_one, Nat.mul_one] at near
  refine ⟨units, ?_, near⟩
  have positive : ¬(n : Int) < 0 := Int.not_lt.mpr (Int.natCast_nonneg _)
  rw [ofInt, decide_eq_false positive, Int.natAbs_natCast, rounded]

theorem round?_near {units n error : Nat} (near : Near units (n * one) error)
    (small : 2 * error < one) : (finite false units).round? = some (n : Int) := by
  change some ((roundQuotient units one : Nat) : Int) = _
  rw [roundQuotient_eq near small]

end Binary64

namespace Numeral

open Text

attribute [local irreducible] Binary64.one Binary64.roundoff

section Digits

variable {cs whole fraction : List Char}

/-- Digits put after others: their places are counted from the end. -/
theorem digitsValue_append (digits : ∀ c ∈ whole, c ∈ asciiDigits)
    (digits' : ∀ c ∈ fraction, c ∈ asciiDigits) :
    digitsValue (whole ++ fraction) =
      10 ^ fraction.length * digitsValue whole + digitsValue fraction := by
  have together : ∀ c ∈ whole ++ fraction, c ∈ asciiDigits := fun c member =>
    (List.mem_append.mp member).elim (digits c) (digits' c)
  rw [digitsValue_digits together, digitsValue_digits digits, digitsValue_digits digits',
    Nat.ofDigitChars_append, Nat.ofDigitChars_eq_ofDigitChars_zero]

theorem digitsValue_dropWhile (cs : List Char) :
    digitsValue (cs.dropWhile (· == '0')) = digitsValue cs := by
  induction cs with
  | nil => rfl
  | cons c rest ih =>
    by_cases zero : c = '0'
    · subst zero
      exact ih
    · rw [List.dropWhile_cons_of_neg (by simpa using zero)]

/-- A row of digits that starts with none but a zero is as large as its length. -/
theorem length_le_of_digitsValue_lt {places : Nat} (digits : ∀ c ∈ cs, c ∈ asciiDigits)
    (significant : ∀ c ∈ cs.head?, c ≠ '0') (small : digitsValue cs < 10 ^ places) :
    cs.length ≤ places := by
  cases cs with
  | nil => exact Nat.zero_le _
  | cons first rest =>
    have positive : ∀ c ∈ asciiDigits, c ≠ '0' → 1 ≤ c.toNat - '0'.toNat :=
      forall_mem_asciiDigits.mpr (by decide)
    have leading := positive first (digits first (List.mem_cons_self ..)) (significant first rfl)
    rw [digitsValue_digits digits, Nat.ofDigitChars_cons, Nat.mul_zero, Nat.zero_add,
      Nat.ofDigitChars_eq_ofDigitChars_zero] at small
    have least := Nat.mul_le_mul_left (10 ^ rest.length) leading
    have shorter : 10 ^ rest.length < 10 ^ places := by omega
    exact (Nat.pow_lt_pow_iff_right (by decide)).mp shorter

end Digits

section Reading

variable {cs whole fraction : List Char}

/-- A row of ASCII digits is read unless it is too long. -/
theorem readInt_digitRow (digits : ∀ c ∈ cs, c ∈ asciiDigits) (full : cs ≠ []) :
    readInt cs = if digitLimit < cs.length then .error (.tooLong cs.length)
      else .ok (digitsValue cs : Int) := by
  have ascii : asciiForm cs = cs := by
    have each : ∀ c ∈ asciiDigits, decide (c.toNat < 128) = true :=
      forall_mem_asciiDigits.mpr (by decide)
    rw [asciiForm, if_pos]
    exact List.all_eq_true.mpr fun c member => each c (digits c member)
  have form := splitSign_row digits full
  exact readInt_row (by rw [ascii, form]) digits full

theorem splitDigits_digits {rest : List Char} (digits : ∀ c ∈ cs, c ∈ asciiDigits)
    (apart : ∀ c ∈ rest.head?, (asciiDigitValue? c).isSome = false) :
    splitDigits (cs ++ rest) = (cs, rest) := by
  have digit : ∀ c ∈ asciiDigits, (asciiDigitValue? c).isSome = true :=
    forall_mem_asciiDigits.mpr (by decide)
  have inside : ∀ c ∈ cs, (asciiDigitValue? c).isSome = true := fun c member =>
    digit c (digits c member)
  rw [splitDigits, takeWhile_boundary inside apart, dropWhile_boundary inside apart]

/-- Digits with a point among them are a row of digits with a number of places. -/
theorem readFloat?_point (digits : ∀ c ∈ whole, c ∈ asciiDigits)
    (digits' : ∀ c ∈ fraction, c ∈ asciiDigits) (full : whole ≠ []) :
    readFloat? (whole ++ '.' :: fraction) =
      some (nearestDecimal false (whole ++ fraction) (0 - (fraction.length : Int))) := by
  have plain : ∀ c ∈ whole ++ '.' :: fraction, c ∈ asciiDigits ∨ c = '.' := by
    intro c member
    rcases List.mem_append.mp member with member | member
    · exact .inl (digits c member)
    · rcases List.mem_cons.mp member with point | member
      · exact .inr point
      · exact .inl (digits' c member)
  have before : splitDigits (whole ++ '.' :: fraction) = (whole, '.' :: fraction) := by
    refine splitDigits_digits digits fun c point => ?_
    cases point
    decide
  have after : splitDigits fraction = (fraction, []) := by
    have none : ∀ c ∈ ([] : List Char).head?, (asciiDigitValue? c).isSome = false := by
      intro c absent
      cases absent
    have split := splitDigits_digits digits' none
    rwa [List.append_nil] at split
  have numeral : whole.isEmpty = false := List.isEmpty_eq_false_iff.mpr full
  rw [readFloat?_plain plain, readMagnitude?]
  simp only [lower_ne_name plain (.inl rfl), lower_ne_name plain (.inr rfl), decide_false, Bool.or_self,
    Bool.false_eq_true, ↓reduceIte, before, after, numeral, Bool.false_and, readExponent?,
    Option.map_some]

/-- A number of thousandths below 10 ^ 15 is read as a number near it. -/
theorem nearestDecimal_thousandths (digits : ∀ c ∈ cs, c ∈ asciiDigits)
    (small : digitsValue cs < 10 ^ 15) :
    ∃ units, nearestDecimal false cs (0 - (3 : Nat)) = .finite false units ∧
      Near (units * 1000) (digitsValue cs * Binary64.one) (2 ^ 40 * Binary64.roundoff * 1000) := by
  have few : (cs.dropWhile (· == '0')).length ≤ 15 := by
    refine length_le_of_digitsValue_lt (fun c member => ?_) (fun c first zero => ?_) ?_
    · exact digits c ((List.dropWhile_sublist _).mem member)
    · have := List.head?_dropWhile_not (· == '0') cs
      rw [first, zero] at this
      cases this
    · rwa [digitsValue_dropWhile]
  unfold nearestDecimal
  dsimp only
  split
  · rename_i zero
    have none : cs.dropWhile (· == '0') = [] := by
      rcases Bool.or_eq_true_iff.mp zero with empty | tiny
      · exact List.isEmpty_iff.mp empty
      · have := of_decide_eq_true tiny
        omega
    rw [← digitsValue_dropWhile, none]
    exact ⟨0, rfl, Nat.zero_le _, by simp [digitsValue]⟩
  · rw [if_neg (by omega), if_neg (by decide), digitsValue_dropWhile]
    refine Binary64.ofQuotient_near (by decide) ?_ (by decide) false
    rw [Nat.div_lt_iff_lt_mul (by decide), Nat.mul_right_comm]
    exact Nat.mul_lt_mul_of_pos_right (Nat.lt_trans small (by decide)) Binary64.one_pos

end Reading

end Numeral

namespace LogFile

open Text Numeral

section Rounding

attribute [local irreducible] Binary64.one Binary64.roundoff

/-- What is near a number of milliseconds below 10 ^ 15 is in range. -/
theorem lt_of_near {units total error : Nat} (small : total < 10 ^ 15)
    (near : Near (units * 1000) (total * Binary64.one) error)
    (fine : error ≤ 2 ^ 52 * Binary64.roundoff) :
    units < 2 ^ 40 * Binary64.one ∧ units * 1000 < 2 ^ 50 * Binary64.one := by
  have next : (total + 1) * Binary64.one ≤ 10 ^ 15 * Binary64.one := Nat.mul_le_mul_right _ small
  rw [Nat.succ_mul] at next
  have unit := Binary64.one_eq_roundoff
  have positive := Binary64.one_pos
  have above := near.above
  constructor <;> omega

/-- With seconds that are near a number of milliseconds, a clock value is this number after the minutes:
the errors of the four roundings add up to less than a quarter of a millisecond. -/
theorem clockTime_exact {hours minutes millis units : Nat}
    (near : Near (units * 1000) (millis * Binary64.one) (2 ^ 40 * Binary64.roundoff * 1000))
    (small : (hours * 60 + minutes) * 60 * 1000 + millis < 10 ^ 15) :
    clockTime hours minutes (.finite false units) =
      .ok (((hours * 60 + minutes) * 60 * 1000 + millis : Nat) : Int) := by
  have whole : ((hours : Int) * 60 + minutes) * 60 = ((hours * 60 + minutes) * 60 : Nat) := by omega
  generalize (hours * 60 + minutes) * 60 = seconds at small whole
  have few : seconds < 2 ^ 40 := by omega
  -- minutes and seconds, each near what is written, and so their sum before it is rounded
  obtain ⟨start, started, startNear⟩ := Binary64.ofInt_near few (by decide)
  have exactSum := (startNear.mul 1000).add near
  rw [Nat.mul_right_comm seconds, ← Nat.add_mul, ← Nat.add_mul] at exactSum
  obtain ⟨sum, added, sumNear⟩ :=
    Binary64.add_near (lt_of_near small exactSum (by omega)).1 (by decide)
  have rounded := (sumNear.mul 1000).trans exactSum
  obtain ⟨product, multiplied, productNear⟩ :=
    Binary64.thousandfold_near (lt_of_near small rounded (by omega)).2 (by decide)
  have total := (productNear.trans rounded).mono
    (show _ ≤ 2 ^ 52 * Binary64.roundoff by omega)
  have belowHalf : 2 * (2 ^ 52 * Binary64.roundoff) < Binary64.one := by
    have unit := Binary64.one_eq_roundoff
    have positive := Binary64.one_pos
    omega
  rw [clockTime_of_finite (by rw [whole, started]; rfl), whole, started, added, multiplied, toNearest,
    Binary64.round?_near total belowHalf]

end Rounding

/-- A number in decimal digits with zeros before it. -/
structure Padded where
  zeros : Nat
  value : Nat
  deriving DecidableEq, Repr

namespace Padded

variable (n : Padded)

def digits : List Char := List.replicate n.zeros '0' ++ Nat.toDigits 10 n.value

theorem mem_digits : ∀ c ∈ n.digits, c ∈ asciiDigits := by
  intro c member
  rcases List.mem_append.mp member with zero | digit
  · rw [List.eq_of_mem_replicate zero]
    decide
  · exact all_toDigits (fun _ member => member) n.value c digit

theorem digits_ne_nil : n.digits ≠ [] :=
  List.append_ne_nil_of_right_ne_nil _ Nat.toDigits_ne_nil

theorem digitsValue_digits : digitsValue n.digits = n.value := by
  rw [Numeral.digitsValue_digits n.mem_digits, digits, Nat.ofDigitChars_append,
    Nat.ofDigitChars_replicate_zero, Nat.mul_zero, Nat.ofDigitChars_ten_toDigits]

/-- Zeros before a number do not change it, as long as the digits are not too many. -/
theorem readInt_digits (few : n.digits.length ≤ digitLimit) :
    MoteTrial.readInt (String.ofList n.digits) = .ok n.value := by
  apply readInt_ofList
  rw [readInt_digitRow n.mem_digits n.digits_ne_nil, if_neg (Nat.not_lt.mpr few), n.digitsValue_digits]

theorem readInt_overlong (long : digitLimit < n.digits.length) :
    MoteTrial.readInt (String.ofList n.digits) = .error (.longNumeral n.digits.length) := by
  rw [MoteTrial.readInt, String.toList_ofList, readInt_digitRow n.mem_digits n.digits_ne_nil,
    if_pos long]

theorem colon_notMem_digits : ':' ∉ n.digits := fun member => absurd (n.mem_digits _ member) (by decide)

end Padded

/-- A clock value as it is written: the hours may be left out, the seconds have three places. -/
structure ClockValue where
  hours : Option Padded
  minutes : Padded
  seconds : Padded
  tenths : Fin 10
  hundredths : Fin 10
  thousandths : Fin 10
  deriving DecidableEq, Repr

namespace ClockValue

variable (clock : ClockValue)

/-- The places of the seconds. -/
def places : List Char :=
  [Nat.digitChar clock.tenths, Nat.digitChar clock.hundredths, Nat.digitChar clock.thousandths]

def secondsChars : List Char := clock.seconds.digits ++ '.' :: clock.places

def chars : List Char :=
  (match clock.hours with
    | some hours => hours.digits ++ [':']
    | none => []) ++ (clock.minutes.digits ++ ':' :: clock.secondsChars)

def text : String := String.ofList clock.chars

/-- The hours, none where they are left out. -/
def wholeHours : Nat :=
  match clock.hours with
  | some hours => hours.value
  | none => 0

/-- The milliseconds of a clock value. -/
def total : Nat :=
  ((clock.wholeHours * 60 + clock.minutes.value) * 60 + clock.seconds.value) * 1000 +
    (100 * clock.tenths + 10 * clock.hundredths + clock.thousandths)

/-- The hours and the minutes have few enough digits to be read. -/
structure Readable : Prop where
  hours : ∀ hours ∈ clock.hours, hours.digits.length ≤ digitLimit
  minutes : clock.minutes.digits.length ≤ digitLimit

theorem mem_places : ∀ c ∈ clock.places, c ∈ asciiDigits := by
  have each : ∀ digit : Fin 10, Nat.digitChar digit ∈ asciiDigits := by decide
  simp only [places, List.forall_mem_cons, List.not_mem_nil, false_implies, implies_true, and_true]
  exact ⟨each _, each _, each _⟩

theorem isTimeChar_chars : ∀ c ∈ clock.chars, isTimeChar c = true := by
  have digit : ∀ c ∈ asciiDigits, isTimeChar c = true := forall_mem_asciiDigits.mpr (by decide)
  have padded (n : Padded) : ∀ c ∈ n.digits, isTimeChar c = true := fun c member =>
    digit c (n.mem_digits c member)
  have afterHours : ∀ c ∈ clock.minutes.digits ++ ':' :: clock.secondsChars, isTimeChar c = true := by
    refine List.forall_mem_append.mpr ⟨padded _, List.forall_mem_cons.mpr ⟨by decide, ?_⟩⟩
    refine List.forall_mem_append.mpr ⟨padded _, List.forall_mem_cons.mpr ⟨by decide, ?_⟩⟩
    exact fun c member => digit c (clock.mem_places c member)
  unfold chars
  cases clock.hours with
  | none => exact afterHours
  | some hours =>
    have colon : ∀ c ∈ [':'], isTimeChar c = true := List.forall_mem_singleton.mpr (by decide)
    exact List.forall_mem_append.mpr
      ⟨List.forall_mem_append.mpr ⟨padded hours, colon⟩, afterHours⟩

theorem chars_ne_nil : clock.chars ≠ [] := by
  unfold chars
  exact List.append_ne_nil_of_right_ne_nil _ (List.append_ne_nil_of_left_ne_nil
    clock.minutes.digits_ne_nil _)

/-- The seconds and their places are a number of milliseconds. -/
theorem digitsValue_seconds :
    digitsValue (clock.seconds.digits ++ clock.places) =
      clock.seconds.value * 1000 +
        (100 * clock.tenths + 10 * clock.hundredths + clock.thousandths) := by
  have placesValue : digitsValue clock.places =
      100 * clock.tenths + 10 * clock.hundredths + clock.thousandths := by
    rw [Numeral.digitsValue_digits clock.mem_places, places,
      Nat.ofDigitChars_cons_digitChar_of_lt_ten clock.tenths.isLt,
      Nat.ofDigitChars_cons_digitChar_of_lt_ten clock.hundredths.isLt,
      Nat.ofDigitChars_cons_digitChar_of_lt_ten clock.thousandths.isLt, Nat.ofDigitChars_nil]
    omega
  have three : clock.places.length = 3 := rfl
  rw [digitsValue_append clock.seconds.mem_digits clock.mem_places, clock.seconds.digitsValue_digits,
    placesValue, three, Nat.mul_comm]

theorem total_eq : clock.total = (clock.wholeHours * 60 + clock.minutes.value) * 60 * 1000 +
    digitsValue (clock.seconds.digits ++ clock.places) := by
  rw [digitsValue_seconds, total, Nat.add_mul, Nat.add_assoc]

theorem colon_notMem_secondsChars : ':' ∉ clock.secondsChars := by
  intro member
  rcases List.mem_append.mp member with member | member
  · exact clock.seconds.colon_notMem_digits member
  · rcases List.mem_cons.mp member with point | member
    · cases point
    · exact absurd (clock.mem_places _ member) (by decide)

/-- The seconds are read as a number near them. -/
theorem readFloat_seconds (small : clock.total < 10 ^ 15) :
    ∃ units, readFloat (String.ofList clock.secondsChars) = .ok (.finite false units) ∧
      Near (units * 1000) (digitsValue (clock.seconds.digits ++ clock.places) * Binary64.one)
        (2 ^ 40 * Binary64.roundoff * 1000) := by
  have digits : ∀ c ∈ clock.seconds.digits ++ clock.places, c ∈ asciiDigits := fun c member =>
    (List.mem_append.mp member).elim (clock.seconds.mem_digits c) (clock.mem_places c)
  have within : digitsValue (clock.seconds.digits ++ clock.places) < 10 ^ 15 := by
    rw [total_eq] at small
    exact Nat.lt_of_le_of_lt (Nat.le_add_left _ _) small
  obtain ⟨units, read, near⟩ := nearestDecimal_thousandths digits within
  refine ⟨units, ?_, near⟩
  apply readFloat_ofList
  rw [secondsChars, readFloat?_point clock.seconds.mem_digits clock.mem_places
    clock.seconds.digits_ne_nil]
  exact congrArg some read

/-- The fields of a clock value. -/
theorem splitColon_text :
    splitColon clock.text.toList =
      match clock.hours with
      | some hours => (hours.digits, [clock.minutes.digits, clock.secondsChars])
      | none => (clock.minutes.digits, [clock.secondsChars]) := by
  have afterHours : splitColon (clock.minutes.digits ++ ':' :: clock.secondsChars) =
      (clock.minutes.digits, [clock.secondsChars]) := by
    rw [splitColon_append clock.minutes.colon_notMem_digits,
      splitColon_plain clock.colon_notMem_secondsChars]
  rw [text, String.toList_ofList, chars]
  cases clock.hours with
  | none => exact afterHours
  | some hours =>
    simp only [List.append_assoc, List.singleton_append]
    rw [splitColon_append hours.colon_notMem_digits, afterHours]

/-- A clock value is read as its milliseconds. -/
theorem readTime_text (readable : clock.Readable) (small : clock.total < 10 ^ 15) :
    readTime clock.text = .ok clock.total := by
  obtain ⟨units, secondsRead, near⟩ := clock.readFloat_seconds small
  have exact := clockTime_exact near (by rwa [← total_eq])
  rw [← total_eq] at exact
  have minutesRead := clock.minutes.readInt_digits readable.minutes
  have parts := clock.splitColon_text
  cases given : clock.hours with
  | none =>
    rw [given] at parts
    rw [readTime_pair parts secondsRead minutesRead, ← exact, wholeHours, given]
    rfl
  | some hours =>
    rw [given] at parts
    rw [readTime_triple parts secondsRead minutesRead,
      hours.readInt_digits (readable.hours hours given), ok_bind, ← exact, wholeHours, given]

/-- Hours of too many digits are not read, be they zeros. -/
theorem readTime_overlong {hours : Padded} (given : clock.hours = some hours)
    (long : digitLimit < hours.digits.length) (few : clock.minutes.digits.length ≤ digitLimit)
    (small : clock.total < 10 ^ 15) :
    readTime clock.text = .error (.longNumeral hours.digits.length) := by
  obtain ⟨units, secondsRead, -⟩ := clock.readFloat_seconds small
  have minutesRead := clock.minutes.readInt_digits few
  have parts := clock.splitColon_text
  rw [given] at parts
  rw [readTime_triple parts secondsRead minutesRead, hours.readInt_overlong long]
  rfl

end ClockValue

end LogFile

end MoteTrial
