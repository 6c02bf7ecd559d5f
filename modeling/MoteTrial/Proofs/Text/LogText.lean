import MoteTrial.LogFile.Record
import MoteTrial.Proofs.Text.Digits
import MoteTrial.Proofs.Text.Writable

/-! # Reading back the lines that were written

A record that is written as a line of a log file is read back as it was, if its integers can be written
and its message holds no line end.
-/

namespace MoteTrial.LogFile

open Text Numeral

/-- A record whose line can be read back. -/
structure Record.Legible (r : Record) : Prop where
  time_nonneg : 0 ≤ r.time
  time_writable : isWritable r.time = true
  mote_nonneg : 0 ≤ r.mote
  mote_writable : isWritable r.mote = true
  unbroken : '\n' ∉ r.msg.toList ∧ '\r' ∉ r.msg.toList

section Line

variable {r : Record}

theorem toList_write (r : Record) :
    r.write.toList = (decimal r.time).toList ++
      '\t' :: 'I' :: 'D' :: ':' :: ((decimal r.mote).toList ++ '\t' :: r.msg.toList) := by
  simp only [Record.write, String.toList_append, List.append_assoc]
  rfl

/-- The text of a number that is not negative is a row of digits. -/
theorem toList_decimal_nonneg {n : Int} (nonneg : 0 ≤ n) :
    (decimal n).toList = Nat.toDigits 10 n.natAbs := by
  rw [toList_decimal, if_neg (by omega), List.nil_append]

theorem all_decimal_nonneg {p : Char → Prop} (holds : ∀ c ∈ asciiDigits, p c) {n : Int}
    (nonneg : 0 ≤ n) : ∀ c ∈ (decimal n).toList, p c := by
  rw [toList_decimal_nonneg nonneg]
  exact all_toDigits holds _

theorem trimEnd_of_none {p : Char → Bool} {cs : List Char} (none : ∀ c ∈ cs, p c = false) :
    trimEnd p cs = cs := by
  have outside : ∀ c ∈ cs.reverse, p c = false := fun c member => none c (List.mem_reverse.mp member)
  rw [trimEnd, dropWhile_of_none outside, List.reverse_reverse]

theorem dropLineEnd_write (legible : r.Legible) : dropLineEnd r.write.toList = r.write.toList := by
  apply trimEnd_of_none
  intro c member
  have digit : ∀ c ∈ asciiDigits, (c == '\r' || c == '\n') = false :=
    forall_mem_asciiDigits.mpr (by decide)
  rw [toList_write] at member
  rcases List.mem_append.mp member with member | member
  · exact all_decimal_nonneg digit legible.time_nonneg c member
  · simp only [List.mem_cons, List.mem_append] at member
    rcases member with rfl | rfl | rfl | rfl | member | rfl | member
    · decide
    · decide
    · decide
    · decide
    · exact all_decimal_nonneg digit legible.mote_nonneg c member
    · decide
    · obtain ⟨feed, carriage⟩ := legible.unbroken
      simp only [Bool.or_eq_false_iff, beq_eq_false_iff_ne]
      exact ⟨fun same => carriage (same ▸ member), fun same => feed (same ▸ member)⟩

/-- A line starts with a digit. -/
theorem write_eq_cons (legible : r.Legible) :
    ∃ first rest, r.write.toList = first :: rest ∧ first ∈ asciiDigits := by
  obtain ⟨first, rest, shape, digit⟩ := toDigits_eq_cons r.time.natAbs
  rw [toList_write, toList_decimal_nonneg legible.time_nonneg, shape]
  exact ⟨first, _, rfl, digit⟩

theorem isBlankLine_write (legible : r.Legible) : isBlankLine r.write.toList = false := by
  obtain ⟨first, rest, shape, digit⟩ := write_eq_cons legible
  have visible : ∀ c ∈ asciiDigits, isBlank c = false := forall_mem_asciiDigits.mpr (by decide)
  rw [isBlankLine, shape, List.all_cons, visible first digit, Bool.false_and]

theorem splitLine?_write (legible : r.Legible) :
    splitLine? r.write.toList =
      some ⟨(decimal r.time).toList, (decimal r.mote).toList, r.msg.toList⟩ := by
  have visible : ∀ c ∈ asciiDigits, isBlank c = false := forall_mem_asciiDigits.mpr (by decide)
  have unblank : r.write.toList.dropWhile isBlank = r.write.toList := by
    obtain ⟨first, rest, shape, digit⟩ := write_eq_cons legible
    rw [shape, List.dropWhile_cons_of_neg (by simp [visible first digit])]
  have timeChars : ∀ c ∈ (decimal r.time).toList, isTimeChar c = true :=
    all_decimal_nonneg (forall_mem_asciiDigits.mpr (by decide)) legible.time_nonneg
  have moteChars : ∀ c ∈ (decimal r.mote).toList, isDecimalDigit c = true :=
    all_decimal_nonneg (forall_mem_asciiDigits.mpr (by decide)) legible.mote_nonneg
  have tab : isTimeChar '\t' = false ∧ isDecimalDigit '\t' = false ∧ isBlank '\t' = true := by decide
  have letter : isBlank 'I' = false := by decide
  have time : r.write.toList.takeWhile isTimeChar = (decimal r.time).toList := by
    rw [toList_write]
    exact takeWhile_boundary timeChars (by simp [tab.1])
  have afterTime : r.write.toList.dropWhile isTimeChar =
      '\t' :: 'I' :: 'D' :: ':' :: ((decimal r.mote).toList ++ '\t' :: r.msg.toList) := by
    rw [toList_write]
    exact dropWhile_boundary timeChars (by simp [tab.1])
  have mote : ((decimal r.mote).toList ++ '\t' :: r.msg.toList).takeWhile isDecimalDigit =
      (decimal r.mote).toList := takeWhile_boundary moteChars (by simp [tab.2.1])
  have afterMote : ((decimal r.mote).toList ++ '\t' :: r.msg.toList).dropWhile isDecimalDigit =
      '\t' :: r.msg.toList := dropWhile_boundary moteChars (by simp [tab.2.1])
  have message : r.msg.toList.contains '\n' = false := by
    simpa using legible.unbroken.1
  have timeText : (decimal r.time).toList.isEmpty = false := by
    simpa using decimal_ne_nil r.time
  have moteText : (decimal r.mote).toList.isEmpty = false := by
    simpa using decimal_ne_nil r.mote
  unfold splitLine?
  simp only [unblank, time, afterTime, List.dropWhile_cons, tab.2.2, letter, timeText, List.head?_cons,
    Option.any_some, Bool.not_true, Bool.or_self, Bool.false_eq_true, ↓reduceIte, dropMark?,
    Option.bind_eq_bind, Option.bind_some, mote, afterMote, moteText, message]

/-- A text without colons is a field of its own. -/
theorem splitColon_plain {cs : List Char} (plain : ':' ∉ cs) : splitColon cs = (cs, []) := by
  induction cs with
  | nil => rfl
  | cons c rest ih =>
    rw [List.mem_cons, not_or] at plain
    have other : c ≠ ':' := fun same => plain.1 same.symm
    simp only [splitColon, ih plain.2, other, ↓reduceIte]

/-- A field ends at the first colon. -/
theorem splitColon_append {field rest : List Char} (plain : ':' ∉ field) :
    splitColon (field ++ ':' :: rest) = (field, (splitColon rest).1 :: (splitColon rest).2) := by
  induction field with
  | nil => rfl
  | cons c field ih =>
    have later : ':' ∉ field := fun member => plain (List.mem_cons_of_mem _ member)
    have other : c ≠ ':' := fun colon => plain (colon ▸ List.mem_cons_self ..)
    rw [List.cons_append, splitColon, ih later]
    exact if_neg other

theorem readTime_decimal {n : Int} (nonneg : 0 ≤ n) (writable : isWritable n = true) :
    readTime (decimal n) = .ok n := by
  have plain : ':' ∉ (decimal n).toList := fun member =>
    all_decimal_nonneg (p := (· ≠ ':')) (forall_mem_asciiDigits.mpr (by decide)) nonneg _ member rfl
  unfold readTime
  simp only [splitColon_plain plain, readInt, readInt_decimal writable]

theorem readLine_write (legible : r.Legible) (number : Nat) :
    readLine number r.write.toList = .ok r := by
  have time := readTime_decimal legible.time_nonneg legible.time_writable
  have mote : readInt (decimal r.mote) = .ok r.mote := by
    simp only [MoteTrial.readInt, readInt_decimal legible.mote_writable]
  unfold readLine
  simp only [splitLine?_write legible, lineTime, String.ofList_toList, time, mote]
  rfl

end Line

/-- Records that are written as lines are read back. -/
theorem readLines_write {records : List Record} (legible : ∀ r ∈ records, r.Legible) :
    readLines (records.map Record.write) = .ok records := by
  have from_ (number : Nat) (before : Array Record) :
      readLinesFrom number before (records.map Record.write) = .ok (before ++ records.toArray) := by
    induction records generalizing number before with
    | nil => simp [readLinesFrom]
    | cons r rest ih =>
      have first := legible r (List.mem_cons_self ..)
      rw [List.map_cons, readLinesFrom]
      simp only [dropLineEnd_write first, isBlankLine_write first, readLine_write first,
        Bool.false_eq_true, ↓reduceIte]
      rw [ih fun r member => legible r (List.mem_cons_of_mem _ member)]
      simp
  unfold readLines
  rw [from_]
  change Except.ok (#[] ++ records.toArray).toList = _
  rw [Array.empty_append]

end MoteTrial.LogFile
