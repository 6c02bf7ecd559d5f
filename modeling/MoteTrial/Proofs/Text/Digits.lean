import MoteTrial.Numeral

/-! # Reading back the integers that were written

The text of an integer is an optional minus and a row of ASCII digits; `readInt_decimal` reads it back
if it is not too long. In turn, `isWritable_of_readInt`, what can be read is not too long to be written.
-/

namespace MoteTrial.Text

section Boundary

variable {α : Type} {p : α → Bool} {body rest : List α}

/-- The part of a list before the first element outside a class. -/
theorem takeWhile_boundary (inside : ∀ a ∈ body, p a = true)
    (boundary : ∀ a ∈ rest.head?, p a = false) : (body ++ rest).takeWhile p = body := by
  rw [List.takeWhile_append_of_pos inside]
  cases rest with
  | nil => rw [List.takeWhile_nil, List.append_nil]
  | cons a rest => rw [List.takeWhile_cons_of_neg (by simp [boundary a rfl]), List.append_nil]

theorem dropWhile_boundary (inside : ∀ a ∈ body, p a = true)
    (boundary : ∀ a ∈ rest.head?, p a = false) : (body ++ rest).dropWhile p = rest := by
  rw [List.dropWhile_append_of_pos inside]
  cases rest with
  | nil => rfl
  | cons a rest => exact List.dropWhile_cons_of_neg (by simp [boundary a rfl])

theorem dropWhile_of_none (outside : ∀ a ∈ body, p a = false) : body.dropWhile p = body := by
  cases body with
  | nil => rfl
  | cons a rest => exact List.dropWhile_cons_of_neg (by simp [outside a (List.mem_cons_self ..)])

end Boundary

end MoteTrial.Text

namespace MoteTrial.Numeral

open Text

/-- The ten ASCII digits. -/
def asciiDigits : List Char := ['0', '1', '2', '3', '4', '5', '6', '7', '8', '9']

theorem mem_asciiDigits {c : Char} (digit : c.isDigit = true) : c ∈ asciiDigits := by
  simp only [Char.isDigit, Bool.and_eq_true, decide_eq_true_eq, ge_iff_le,
    UInt32.le_iff_toNat_le] at digit
  obtain ⟨low, high⟩ := digit
  change 48 ≤ c.toNat at low
  change c.toNat ≤ 57 at high
  have code : c.toNat = 48 ∨ c.toNat = 49 ∨ c.toNat = 50 ∨ c.toNat = 51 ∨ c.toNat = 52 ∨
      c.toNat = 53 ∨ c.toNat = 54 ∨ c.toNat = 55 ∨ c.toNat = 56 ∨ c.toNat = 57 := by omega
  rw [← Char.ofNat_toNat c]
  rcases code with h | h | h | h | h | h | h | h | h | h <;> rw [h] <;> decide

theorem forall_mem_asciiDigits {p : Char → Prop} :
    (∀ c ∈ asciiDigits, p c) ↔
      p '0' ∧ p '1' ∧ p '2' ∧ p '3' ∧ p '4' ∧ p '5' ∧ p '6' ∧ p '7' ∧ p '8' ∧ p '9' := by
  simp only [asciiDigits, List.forall_mem_cons, List.not_mem_nil, false_implies, implies_true, and_true]

/-- What holds of the ten digits holds of all characters of a row of digits. -/
theorem all_toDigits {p : Char → Prop} (holds : ∀ c ∈ asciiDigits, p c) (n : Nat) :
    ∀ c ∈ Nat.toDigits 10 n, p c := fun c member =>
  holds c (mem_asciiDigits (Nat.isDigit_of_mem_toDigits (by decide) (by decide) member))

/-- The first digit of a row. -/
theorem toDigits_eq_cons (n : Nat) :
    ∃ first rest, Nat.toDigits 10 n = first :: rest ∧ first ∈ asciiDigits := by
  cases shape : Nat.toDigits 10 n with
  | nil => exact (Nat.toDigits_ne_nil shape).elim
  | cons first rest =>
    exact ⟨first, rest, rfl, all_toDigits (p := (· ∈ asciiDigits)) (fun _ member => member) n first
      (shape ▸ List.mem_cons_self ..)⟩

/-- The value of a row of digits alone. -/
theorem digitsValue_digits {cs : List Char} (digits : ∀ c ∈ cs, c ∈ asciiDigits) :
    digitsValue cs = Nat.ofDigitChars 10 cs 0 := by
  have step (read : Nat → Char → Nat)
      (reads : ∀ value, ∀ c ∈ asciiDigits, read value c = 10 * value + (c.toNat - '0'.toNat))
      (value : Nat) : cs.foldl read value = Nat.ofDigitChars 10 cs value := by
    induction cs generalizing value with
    | nil => rfl
    | cons c rest ih =>
      rw [List.foldl_cons, Nat.ofDigitChars_cons, reads value c (digits c (List.mem_cons_self ..))]
      exact ih (fun c member => digits c (List.mem_cons_of_mem _ member)) _
  have one : ∀ c ∈ asciiDigits, asciiDigitValue? c = some (c.toNat - '0'.toNat) :=
    forall_mem_asciiDigits.mpr (by decide)
  unfold digitsValue
  refine step _ ?_ 0
  intro value c digit
  rw [one c digit]

theorem digitsValue_toDigits (n : Nat) : digitsValue (Nat.toDigits 10 n) = n := by
  rw [digitsValue_digits (all_toDigits (fun _ member => member) n), Nat.ofDigitChars_ten_toDigits]

theorem wellGrouped_digits {l : List Char} (digits : ∀ c ∈ l, c ∈ asciiDigits) :
    wellGrouped true l = true := by
  induction l with
  | nil => rfl
  | cons c rest ih =>
    have plain : ∀ c ∈ asciiDigits, c ≠ '_' :=
      forall_mem_asciiDigits.mpr (by decide)
    rw [wellGrouped, if_neg (plain c (digits c (List.mem_cons_self ..)))]
    exact ih fun c member => digits c (List.mem_cons_of_mem _ member)

/-- The text of an integer. -/
theorem toList_decimal (n : Int) :
    (decimal n).toList =
      (if n < 0 then ['-'] else []) ++ Nat.toDigits 10 n.natAbs := by
  rw [decimal, Int.toString_eq_repr, Int.repr_eq_if]
  by_cases nonneg : 0 ≤ n
  · rw [if_pos nonneg, if_neg (by omega), Nat.toList_repr, List.nil_append]
    congr 1
    omega
  · rw [if_neg nonneg, if_pos (by omega), String.toList_append, Nat.toList_repr]
    congr 2
    omega

theorem splitSign_digit {first : Char} (digit : first ∈ asciiDigits) (rest : List Char) :
    splitSign (first :: rest) = (false, first :: rest) := by
  have plain : ∀ c ∈ asciiDigits, c ≠ '-' ∧ c ≠ '+' :=
      forall_mem_asciiDigits.mpr (by decide)
  obtain ⟨minus, plus⟩ := plain first digit
  unfold splitSign
  split
  · rename_i shape
    exact (minus (List.cons.inj shape).1).elim
  · rename_i shape
    exact (plus (List.cons.inj shape).1).elim
  · rfl

/-- A row of digits is a numeral without a sign. -/
theorem splitSign_row {row : List Char} (digits : ∀ c ∈ row, c ∈ asciiDigits) (full : row ≠ []) :
    splitSign (row.dropWhile isAsciiBlank) = (false, row) := by
  have visible : ∀ c ∈ asciiDigits, isAsciiBlank c = false := forall_mem_asciiDigits.mpr (by decide)
  rw [dropWhile_of_none fun c member => visible c (digits c member)]
  obtain ⟨first, rest, shape⟩ := List.exists_cons_of_ne_nil full
  rw [shape]
  exact splitSign_digit (digits first (shape ▸ List.mem_cons_self ..)) rest

theorem splitSign_decimal (n : Int) :
    splitSign ((decimal n).toList) = (decide (n < 0), Nat.toDigits 10 n.natAbs) := by
  rw [toList_decimal]
  by_cases negative : n < 0
  · simp only [negative, ↓reduceIte, List.cons_append, List.nil_append, decide_true]
    rfl
  · obtain ⟨first, rest, shape, digit⟩ := toDigits_eq_cons n.natAbs
    simp only [negative, ↓reduceIte, List.nil_append, decide_false, shape]
    exact splitSign_digit digit rest

theorem mem_decimal {n : Int} {c : Char} (member : c ∈ (decimal n).toList) :
    c = '-' ∨ c ∈ asciiDigits := by
  rw [toList_decimal] at member
  rcases List.mem_append.mp member with sign | digit
  · split at sign
    · exact .inl (List.mem_singleton.mp sign)
    · cases sign
  · exact .inr (all_toDigits (fun _ member => member) _ c digit)

/-- What holds of the minus and of the digits holds of all characters of an integer's text. -/
theorem all_decimal {p : Char → Prop} (minus : p '-') (digits : ∀ c ∈ asciiDigits, p c) (n : Int) :
    ∀ c ∈ (decimal n).toList, p c := by
  intro c member
  rcases mem_decimal member with rfl | digit
  · exact minus
  · exact digits c digit

theorem decimal_ne_nil (n : Int) : (decimal n).toList ≠ [] := by
  rw [toList_decimal]
  simp

theorem getLast?_toDigits (n : Nat) : (Nat.toDigits 10 n).getLast? = some (n % 10).digitChar := by
  by_cases single : n < 10
  · rw [Nat.toDigits_of_lt_base single, Nat.mod_eq_of_lt single]
    rfl
  · rw [Nat.toDigits_of_base_le (by decide) (by omega)]
    exact List.getLast?_concat

/-- The last character of an integer's text is its last digit. -/
theorem getLast?_decimal (n : Int) :
    (decimal n).toList.getLast? = some (n.natAbs % 10).digitChar := by
  rw [toList_decimal, List.getLast?_append, getLast?_toDigits]
  rfl

theorem sign_natAbs (n : Int) : (if n < 0 then -(n.natAbs : Int) else n.natAbs) = n := by
  split <;> omega

/-- A row of digits after an optional sign is read unless it is too long. -/
theorem readInt_row {cs row : List Char} {negative : Bool}
    (form : splitSign ((asciiForm cs).dropWhile isAsciiBlank) = (negative, row))
    (digits : ∀ c ∈ row, c ∈ asciiDigits) (full : row ≠ []) :
    readInt cs = if digitLimit < row.length then .error (.tooLong row.length)
      else .ok (if negative then -(digitsValue row : Int) else digitsValue row) := by
  have holds {p : Char → Prop} (each : ∀ c ∈ asciiDigits, p c) : ∀ c ∈ row, p c := fun c member =>
    each c (digits c member)
  have grouped : ∀ c ∈ row, inDigitGroup c = true := holds (forall_mem_asciiDigits.mpr (by decide))
  have whole : row.takeWhile inDigitGroup = row := by
    have taken := takeWhile_boundary grouped (nofun : ∀ a ∈ [].head?, inDigitGroup a = false)
    rwa [List.append_nil] at taken
  have rest : row.dropWhile inDigitGroup = [] := by
    rw [← List.append_nil row]
    exact dropWhile_boundary grouped nofun
  have plain : row.filter (· != '_') = row :=
    List.filter_eq_self.mpr (holds (forall_mem_asciiDigits.mpr (by decide)))
  have wellFormed : wellGrouped false row = true := by
    obtain ⟨first, others, shape⟩ := List.exists_cons_of_ne_nil full
    have nonblank : ∀ c ∈ row, c ≠ '_' := holds (forall_mem_asciiDigits.mpr (by decide))
    rw [shape, wellGrouped, if_neg (nonblank first (shape ▸ List.mem_cons_self ..))]
    exact wellGrouped_digits fun c member => digits c (shape ▸ List.mem_cons_of_mem _ member)
  unfold readInt
  simp only [form, whole, rest, plain, wellFormed, Bool.not_true, Bool.false_eq_true, ↓reduceIte,
    List.all_nil]

/-- An integer that can be written is read back. -/
theorem readInt_decimal {n : Int} (writable : isWritable n = true) :
    readInt (decimal n).toList = .ok n := by
  have short : (Nat.toDigits 10 n.natAbs).length ≤ digitLimit := by
    rw [Nat.length_toDigits_le_iff (by decide) (by decide)]
    exact isWritable_iff.mp writable
  have ascii : asciiForm (decimal n).toList = (decimal n).toList := by
    rw [asciiForm, if_pos]
    exact List.all_eq_true.mpr (all_decimal (by decide) (forall_mem_asciiDigits.mpr (by decide)) n)
  have unblank : (decimal n).toList.dropWhile isAsciiBlank = (decimal n).toList :=
    dropWhile_of_none (all_decimal (by decide) (forall_mem_asciiDigits.mpr (by decide)) n)
  have form : splitSign ((asciiForm (decimal n).toList).dropWhile isAsciiBlank) =
      (decide (n < 0), Nat.toDigits 10 n.natAbs) := by
    rw [ascii, unblank, splitSign_decimal]
  have full : Nat.toDigits 10 n.natAbs ≠ [] := Nat.toDigits_ne_nil
  rw [readInt_row form (all_toDigits (fun _ member => member) _) full, if_neg (Nat.not_lt.mpr short),
    digitsValue_toDigits]
  simp only [decide_eq_true_eq, sign_natAbs]

theorem asciiDigitValue?_lt {c : Char} {digit : Nat} (found : asciiDigitValue? c = some digit) :
    digit < 10 := by
  unfold asciiDigitValue? at found
  split at found
  · rename_i range
    simp only [Bool.and_eq_true, decide_eq_true_eq] at range
    have high : c.toNat ≤ 57 := range.2
    cases found
    omega
  · cases found

theorem digitsValue_lt (cs : List Char) : digitsValue cs < 10 ^ cs.length := by
  have fold {step : Nat → Char → Nat} (small : ∀ value c, step value c + 1 ≤ (value + 1) * 10)
      (value : Nat) : cs.foldl step value < (value + 1) * 10 ^ cs.length := by
    induction cs generalizing value with
    | nil => simp
    | cons c rest ih =>
      rw [List.foldl_cons, List.length_cons, Nat.pow_succ, Nat.mul_comm _ 10, ← Nat.mul_assoc]
      exact Nat.lt_of_lt_of_le (ih _) (Nat.mul_le_mul_right _ (small value c))
  have placed {digit : Nat} (small : digit < 10) (value : Nat) :
      10 * value + digit + 1 ≤ (value + 1) * 10 := by
    omega
  unfold digitsValue
  rw [← Nat.one_mul (10 ^ cs.length)]
  refine fold (fun value c => ?_) 0
  split
  · exact placed (asciiDigitValue?_lt ‹_›) value
  · omega

theorem length_asciiForm_le (cs : List Char) : (asciiForm cs).length ≤ cs.length := by
  have form : ∀ cs : List Char, (toAsciiForm cs).length ≤ cs.length := by
    intro cs
    induction cs with
    | nil => exact Nat.le_refl _
    | cons c rest ih =>
      rw [toAsciiForm]
      split
      · exact Nat.succ_le_succ ih
      · split
        · exact Nat.succ_le_succ ih
        · split
          · exact Nat.succ_le_succ ih
          · exact Nat.succ_le_succ (Nat.zero_le _)
  unfold asciiForm
  split
  · exact Nat.le_refl _
  · exact form cs

theorem length_splitSign_le (cs : List Char) : (splitSign cs).2.length ≤ cs.length := by
  unfold splitSign
  split
  · exact Nat.le_succ _
  · exact Nat.le_succ _
  · exact Nat.le_refl _

/-- The digits of an integer that is read: there are not too many, and none that are not in the text. -/
theorem digits_of_readInt {cs : List Char} {n : Int} (read : readInt cs = .ok n) :
    ∃ digits, n.natAbs = digitsValue digits ∧ digits.length ≤ digitLimit ∧
      digits.length ≤ cs.length := by
  unfold readInt at read
  dsimp only at read
  split at read
  · cases read
  · split at read
    · cases read
    · rename_i few
      split at read
      · cases read
      · refine ⟨_, ?_, Nat.not_lt.mp few, ?_⟩
        · cases read
          split <;> omega
        · exact Nat.le_trans (List.length_filter_le ..) <|
            Nat.le_trans (List.takeWhile_sublist _).length_le <|
              Nat.le_trans (length_splitSign_le _) <|
                Nat.le_trans (List.dropWhile_sublist _).length_le <| length_asciiForm_le cs

/-- An integer is below the power of ten that has a place more than its text. -/
theorem natAbs_lt_of_readInt {cs : List Char} {n : Int} (read : readInt cs = .ok n) :
    n.natAbs < 10 ^ cs.length := by
  obtain ⟨digits, value, _, short⟩ := digits_of_readInt read
  rw [value]
  exact Nat.lt_of_lt_of_le (digitsValue_lt digits) (Nat.pow_le_pow_right (by decide) short)

/-- What can be read can be written. -/
theorem isWritable_of_readInt {cs : List Char} {n : Int} (read : readInt cs = .ok n) :
    isWritable n = true := by
  obtain ⟨digits, value, few, _⟩ := digits_of_readInt read
  rw [isWritable_iff, value]
  exact Nat.lt_of_lt_of_le (digitsValue_lt digits) (Nat.pow_le_pow_right (by decide) few)

end MoteTrial.Numeral
