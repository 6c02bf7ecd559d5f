import MoteTrial.Proofs.LogFile.ClockRange

/-! # Which line of a log file is at fault

Reading the lines of a log file either gives the record of each line that is not blank, or stops at the
first such line without one. The failure then points at that line, by its number and its text; only where
a clock value is out of range, or a mote has too many digits, does it not.
-/

namespace MoteTrial.LogFile

open Text Numeral

/-- A failure that says which line of a log file is at fault. -/
def PointsAt (number : Nat) (line : List Char) (f : Failure) : Prop :=
  f.name = "LogFormatError" ∧ f.logLine? = some (number, String.ofList line)

/-- The record of a line, if it has one. -/
def record? (line : List Char) : Option Record := do
  let fields ← splitLine? line
  let time ← (readTime (String.ofList fields.time)).toOption
  let mote ← (readInt (String.ofList fields.mote)).toOption
  return ⟨time, mote, String.ofList fields.msg⟩

/-- The record of a line that is not blank. -/
def recordOf? (raw : String) : Option Record :=
  if isBlankLine (dropLineEnd raw.toList) then none else record? (dropLineEnd raw.toList)

/-- A line that is not blank and has no record. -/
def Faulty (raw : String) : Prop :=
  isBlankLine (dropLineEnd raw.toList) = false ∧ record? (dropLineEnd raw.toList) = none

/-- The failures that do not say where they come from, for a line with the given fields. -/
inductive Unplaced (fields : Fields) : Failure → Prop
  /-- A clock value is out of range. -/
  | time {f : Failure} (failed : readTime (String.ofList fields.time) = .error f)
      (overflow : f.isOverflow = true) (clock : ':' ∈ fields.time)
      (long : timeLimit < fields.time.length) : Unplaced fields f
  /-- The time can be read, and the mote has too many digits. -/
  | mote {time : Int} (read : readTime (String.ofList fields.time) = .ok time)
      (long : digitLimit < fields.mote.length) : Unplaced fields (.longNumeral fields.mote.length)

section Digits

/-- The rows of digits lie between the blanks, and all but the first beyond ASCII. -/
theorem digitZeros_spread : ∀ first ∈ digitZeros, first = 48 ∨ 0xA0 < first ∧
    (first + 10 ≤ 0x1680 ∨ 0x1680 < first ∧ first + 10 ≤ 0x2000 ∨ 0x3000 < first) := by
  decide

/-- A decimal digit of some script stands in the row of its zero. -/
theorem digitValue?_row {c : Char} (digit : isDecimalDigit c = true) :
    ∃ first ∈ digitZeros, digitValue? c = some (c.toNat - first) ∧
      first ≤ c.toNat ∧ c.toNat < first + 10 := by
  obtain ⟨value, found⟩ := Option.isSome_iff_exists.mp digit
  obtain ⟨first, row, rfl⟩ := Option.map_eq_some_iff.mp found
  have range := List.find?_some row
  simp only [Bool.and_eq_true, decide_eq_true_eq] at range
  exact ⟨first, List.mem_of_find?_eq_some row, found, range⟩

/-- A decimal digit of some script: its value, and that it is not blank. -/
theorem digitValue?_of_isDecimalDigit {c : Char} (digit : isDecimalDigit c = true) :
    ∃ value, digitValue? c = some value ∧ value < 10 ∧ isBlank c = false := by
  obtain ⟨first, member, found, range⟩ := digitValue?_row digit
  have visible : isBlank c = false := by
    have spread := digitZeros_spread first member
    simp only [isBlank, Bool.or_eq_false_iff, Bool.and_eq_false_iff, decide_eq_false_iff_not,
      beq_eq_false_iff_ne]
    omega
  exact ⟨_, found, by omega, visible⟩

theorem mem_asciiDigits_of_isDecimalDigit {c : Char} (digit : isDecimalDigit c = true)
    (ascii : c.toNat < 128) : c ∈ asciiDigits := by
  obtain ⟨first, member, -, range⟩ := digitValue?_row digit
  have zero : first = 48 := by
    have spread := digitZeros_spread first member
    omega
  subst zero
  have each : ∀ code < 58, 48 ≤ code → Char.ofNat code ∈ asciiDigits := by decide
  have member := each c.toNat range.2 range.1
  rwa [Char.ofNat_toNat] at member

theorem asciiDigit_mem {value : Nat} (small : value < 10) : asciiDigit value ∈ asciiDigits := by
  have each : ∀ value < 10, asciiDigit value ∈ asciiDigits := by decide
  exact each value small

theorem toAsciiForm_digits {cs : List Char} (digits : ∀ c ∈ cs, isDecimalDigit c = true) :
    (toAsciiForm cs).length = cs.length ∧ ∀ c ∈ toAsciiForm cs, c ∈ asciiDigits := by
  induction cs with
  | nil => exact ⟨rfl, nofun⟩
  | cons c rest ih =>
    have here := digits c (List.mem_cons_self ..)
    obtain ⟨size, ascii⟩ := ih fun d member => digits d (List.mem_cons_of_mem _ member)
    have placed {first : Char} (digit : first ∈ asciiDigits) :
        (first :: toAsciiForm rest).length = rest.length + 1 ∧
          ∀ d ∈ first :: toAsciiForm rest, d ∈ asciiDigits :=
      ⟨congrArg (· + 1) size, List.forall_mem_cons.mpr ⟨digit, ascii⟩⟩
    obtain ⟨value, found, small, visible⟩ := digitValue?_of_isDecimalDigit here
    by_cases low : c.toNat < 127
    · simp only [toAsciiForm, low, ↓reduceIte]
      exact placed (mem_asciiDigits_of_isDecimalDigit here (by omega))
    · simp only [toAsciiForm, low, visible, found, Bool.false_eq_true, ↓reduceIte]
      exact placed (asciiDigit_mem small)

/-- Digits of any script become as many ASCII digits. -/
theorem asciiForm_digits {cs : List Char} (digits : ∀ c ∈ cs, isDecimalDigit c = true) :
    (asciiForm cs).length = cs.length ∧ ∀ c ∈ asciiForm cs, c ∈ asciiDigits := by
  unfold asciiForm
  split
  · rename_i ascii
    refine ⟨rfl, fun c member => mem_asciiDigits_of_isDecimalDigit (digits c member) ?_⟩
    exact of_decide_eq_true (List.all_eq_true.mp ascii c member)
  · exact toAsciiForm_digits digits

/-- A row of digits of any script is read unless it is too long. -/
theorem readInt_digits {cs : List Char} (digits : ∀ c ∈ cs, isDecimalDigit c = true)
    (full : cs ≠ []) :
    ∃ n, Numeral.readInt cs = if digitLimit < cs.length then .error (.tooLong cs.length) else .ok n := by
  obtain ⟨size, ascii⟩ := asciiForm_digits digits
  have nonempty : asciiForm cs ≠ [] := fun empty => full (by
    rw [empty] at size
    exact List.length_eq_zero_iff.mp size.symm)
  rw [readInt_row (splitSign_row ascii nonempty) ascii nonempty, size]
  exact ⟨_, rfl⟩

end Digits

section Fields

variable {line : List Char} {fields : Fields}

/-- What the fields of a line are made of. -/
theorem splitLine?_fields (split : splitLine? line = some fields) :
    (∀ c ∈ fields.time, isTimeChar c = true) ∧ (∀ c ∈ fields.mote, isDecimalDigit c = true) ∧
      fields.mote ≠ [] := by
  unfold splitLine? at split
  dsimp only at split
  split at split
  · cases split
  · obtain ⟨afterMark, -, split⟩ := Option.bind_eq_some_iff.mp split
    split at split
    · cases split
    · split at split
      · cases split
      · rename_i shape
        cases split
        refine ⟨List.all_eq_true.mp List.all_takeWhile, List.all_eq_true.mp List.all_takeWhile,
          fun empty => shape ?_⟩
        rw [List.isEmpty_iff.mpr empty, Bool.true_or, Bool.true_or]

/-- Whether a line has a record does not depend on its number. -/
theorem readLine_eq_ok {number : Nat} {r : Record} :
    readLine number line = .ok r ↔ record? line = some r := by
  unfold readLine record? lineTime
  cases split : splitLine? line with
  | none => simp
  | some fields =>
    cases time : readTime (String.ofList fields.time) with
    | error f => simp [time, Except.toOption, bind, Except.bind]
    | ok ms =>
      cases mote : MoteTrial.readInt (String.ofList fields.mote) with
      | error f => simp [mote, Except.toOption, bind, Except.bind, time]
      | ok id => simp [mote, Except.toOption, bind, Except.bind, time, pure, Except.pure]

theorem readLine_overflow {number : Nat} {f : Failure} (split : splitLine? line = some fields)
    (failed : readTime (String.ofList fields.time) = .error f) (overflow : f.isOverflow = true) :
    readLine number line = .error f := by
  unfold readLine lineTime
  simp only [split, failed, overflow, ↓reduceIte]
  rfl

/-- What is wrong with a line that cannot be read. -/
theorem readLine_error {number : Nat} {f : Failure} (failed : readLine number line = .error f) :
    PointsAt number line f ∨
      f.logLine? = none ∧ ∃ fields, splitLine? line = some fields ∧ Unplaced fields f := by
  unfold readLine at failed
  cases split : splitLine? line with
  | none =>
    rw [split] at failed
    cases failed
    exact .inl ⟨rfl, rfl⟩
  | some fields =>
    obtain ⟨timely, digits, full⟩ := splitLine?_fields split
    simp only [split] at failed
    rcases bind_eq_error failed with failed | ⟨time, timeRead, failed⟩
    · unfold lineTime at failed
      split at failed
      · cases failed
      · rename_i f' timeFailed
        by_cases overflow : f'.isOverflow = true
        · rw [if_pos overflow] at failed
          cases failed
          obtain ⟨clock, long⟩ := readTime_overflow (by rwa [String.toList_ofList]) timeFailed overflow
          rw [String.toList_ofList] at clock long
          refine .inr ⟨?_, fields, rfl, .time timeFailed overflow clock long⟩
          cases f <;> first | rfl | cases overflow
        · rw [if_neg overflow] at failed
          cases failed
          exact .inl ⟨rfl, rfl⟩
    · rcases bind_eq_error failed with failed | ⟨mote, moteRead, failed⟩
      · obtain ⟨n, outcome⟩ := readInt_digits digits full
        unfold MoteTrial.readInt at failed
        rw [String.toList_ofList, outcome] at failed
        have timeRead' : readTime (String.ofList fields.time) = .ok time := by
          unfold lineTime at timeRead
          split at timeRead
          · rename_i read
            cases timeRead
            exact read
          · cases timeRead
        by_cases long : digitLimit < fields.mote.length
        · rw [if_pos long] at failed
          cases failed
          exact .inr ⟨rfl, fields, rfl, .mote timeRead' long⟩
        · rw [if_neg long] at failed
          cases failed
      · cases failed

end Fields

theorem not_faulty_of_blank {raw : String} (blank : isBlankLine (dropLineEnd raw.toList) = true) :
    ¬Faulty raw ∧ recordOf? raw = none := by
  refine ⟨fun faulty => ?_, if_pos blank⟩
  rw [Faulty, blank] at faulty
  cases faulty.1

theorem not_faulty_of_record {raw : String} {r : Record}
    (full : isBlankLine (dropLineEnd raw.toList) = false)
    (record : record? (dropLineEnd raw.toList) = some r) : ¬Faulty raw ∧ recordOf? raw = some r := by
  refine ⟨fun faulty => ?_, by rw [recordOf?, full, if_neg Bool.false_ne_true, record]⟩
  rw [Faulty, record] at faulty
  cases faulty.2

/-- How the reading of lines ends, when the first has the given number and their records are put after
others: with the record of each line that is not blank, or at the first line at fault. -/
def Settles (number : Nat) (records : Array Record) (lines : List String) : Prop :=
  (readLinesFrom number records lines = .ok (records ++ (lines.filterMap recordOf?).toArray) ∧
      ∀ raw ∈ lines, ¬Faulty raw) ∨
    ∃ before raw after f, lines = before ++ raw :: after ∧ (∀ earlier ∈ before, ¬Faulty earlier) ∧
      Faulty raw ∧ readLinesFrom number records lines = .error f ∧
      readLine (number + before.length) (dropLineEnd raw.toList) = .error f

/-- A line that is passed over or read leaves the question to the lines after it. -/
theorem Settles.cons {number : Nat} {records records' : Array Record} {raw : String}
    {rest : List String} (later : Settles (number + 1) records' rest) (sound : ¬Faulty raw)
    (step : readLinesFrom number records (raw :: rest) = readLinesFrom (number + 1) records' rest)
    (grown : records' ++ (rest.filterMap recordOf?).toArray =
      records ++ ((raw :: rest).filterMap recordOf?).toArray) :
    Settles number records (raw :: rest) := by
  rcases later with ⟨read, others⟩ | ⟨before, raw', after, f, shape, others, faulty, failed, line⟩
  · exact .inl ⟨by rw [step, read, grown], List.forall_mem_cons.mpr ⟨sound, others⟩⟩
  · refine .inr ⟨raw :: before, raw', after, f, by rw [shape, List.cons_append],
      List.forall_mem_cons.mpr ⟨sound, others⟩, faulty, by rw [step, failed], ?_⟩
    rwa [List.length_cons, Nat.add_comm before.length 1, ← Nat.add_assoc]

theorem readLinesFrom_settles (number : Nat) (records : Array Record) (lines : List String) :
    Settles number records lines := by
  induction lines generalizing number records with
  | nil => exact .inl ⟨by simp [readLinesFrom], nofun⟩
  | cons raw rest ih =>
    cases blank : isBlankLine (dropLineEnd raw.toList) with
    | true =>
      obtain ⟨sound, none⟩ := not_faulty_of_blank blank
      refine (ih (number + 1) records).cons sound ?_ ?_
      · simp only [readLinesFrom, blank, ↓reduceIte]
      · rw [List.filterMap_cons_none none]
    | false =>
      cases outcome : readLine number (dropLineEnd raw.toList) with
      | ok r =>
        obtain ⟨sound, some⟩ := not_faulty_of_record blank (readLine_eq_ok.mp outcome)
        refine (ih (number + 1) (records.push r)).cons sound ?_ ?_
        · simp only [readLinesFrom, blank, outcome, Bool.false_eq_true, ↓reduceIte]
        · rw [List.filterMap_cons_some some]
          simp
      | error f =>
        have none : record? (dropLineEnd raw.toList) = none := by
          refine Option.eq_none_iff_forall_ne_some.mpr fun r some => ?_
          rw [readLine_eq_ok.mpr some] at outcome
          cases outcome
        refine .inr ⟨[], raw, rest, f, rfl, nofun, ⟨blank, none⟩, ?_, outcome⟩
        simp only [readLinesFrom, blank, outcome, Bool.false_eq_true, ↓reduceIte]

/-- Lines are read when none is at fault, each that is not blank as its record. -/
theorem readLines_eq_ok {lines : List String} {records : List Record} :
    readLines lines = .ok records ↔
      (∀ raw ∈ lines, ¬Faulty raw) ∧ lines.filterMap recordOf? = records := by
  rcases readLinesFrom_settles 1 #[] lines with
    ⟨read, sound⟩ | ⟨before, raw, after, f, rfl, sound, faulty, failed, line⟩
  · have read' : readLines lines = .ok (lines.filterMap recordOf?) := by
      rw [readLines, read, ok_bind, Array.empty_append]
      rfl
    rw [read', Except.ok.injEq]
    exact ⟨fun same => ⟨sound, same⟩, And.right⟩
  · have failed' : readLines (before ++ raw :: after) = .error f := by
      rw [readLines, failed]
      rfl
    refine ⟨fun read => ?_, fun settled => ?_⟩
    · rw [failed'] at read
      cases read
    · exact absurd faulty (settled.1 raw (List.mem_append_right _ (List.mem_cons_self ..)))

/-- Either every line that is not blank has its record, or the reading stops at the first one without,
and the failure points at that line or at nothing, which takes a clock value of more than `timeLimit`
characters or a mote of more than `digitLimit` digits. -/
theorem readLines_located (lines : List String) :
    (readLines lines = .ok (lines.filterMap recordOf?) ∧ ∀ raw ∈ lines, ¬Faulty raw) ∨
      ∃ before raw after f, lines = before ++ raw :: after ∧ (∀ earlier ∈ before, ¬Faulty earlier) ∧
        Faulty raw ∧ readLines lines = .error f ∧
        (PointsAt (before.length + 1) (dropLineEnd raw.toList) f ∨
          f.logLine? = none ∧ ∃ fields, splitLine? (dropLineEnd raw.toList) = some fields ∧
            Unplaced fields f) := by
  unfold readLines
  rcases readLinesFrom_settles 1 #[] lines with
    ⟨read, sound⟩ | ⟨before, raw, after, f, shape, sound, faulty, failed, line⟩
  · refine .inl ⟨?_, sound⟩
    rw [read, ok_bind, Array.empty_append]
    rfl
  · refine .inr ⟨before, raw, after, f, shape, sound, faulty, by rw [failed]; rfl, ?_⟩
    rw [Nat.add_comm] at line
    exact readLine_error line

/-- A line with the form of one, whose clock value has seconds of 310 digits. -/
def overlongClock : List Char :=
  '0' :: ':' :: (List.replicate 310 '9' ++ ['\t', 'I', 'D', ':', '1', '\t', 'x'])

theorem readTime_overlongClock :
    readTime (String.ofList ('0' :: ':' :: List.replicate 310 '9')) = .error .infiniteToInteger := by
  have parts : splitColon ('0' :: ':' :: List.replicate 310 '9') =
      (['0'], [List.replicate 310 '9']) := by decide +kernel
  have seconds : readFloat? (List.replicate 310 '9') = some (.infinite false) := by decide +kernel
  have minutes : Numeral.readInt ['0'] = .ok 0 := rfl
  have zero : Binary64.ofInt ((0 * 60 + 0) * 60) = .finite false 0 := by decide +kernel
  have total : ((Binary64.finite false 0).add (.infinite false)).mul (.ofNat 1000) =
      .infinite false := by decide +kernel
  rw [readTime_pair (by rw [String.toList_ofList, parts]) (readFloat_ofList seconds)
    (readInt_ofList minutes), clockTime_of_finite (by rw [zero]; rfl), zero, total]
  rfl

/-- The failure on a line whose clock value is out of range says neither its number nor its text. -/
theorem overlongClock_unplaced :
    readLines [String.ofList overlongClock] = .error .infiniteToInteger ∧
      Faulty (String.ofList overlongClock) ∧ ¬PointsAt 1 overlongClock .infiniteToInteger := by
  have whole : dropLineEnd overlongClock = overlongClock := by decide +kernel
  have full : isBlankLine overlongClock = false := by decide +kernel
  have fields : splitLine? overlongClock =
      some ⟨'0' :: ':' :: List.replicate 310 '9', ['1'], ['x']⟩ := by decide +kernel
  have line : readLine 1 overlongClock = .error .infiniteToInteger :=
    readLine_overflow fields readTime_overlongClock rfl
  have none : record? overlongClock = none := by
    refine Option.eq_none_iff_forall_ne_some.mpr fun r some => ?_
    rw [← readLine_eq_ok, line] at some
    cases some
  generalize overlongClock = text at whole full line none
  have faulty : Faulty (String.ofList text) := by
    rw [Faulty, String.toList_ofList, whole]
    exact ⟨full, none⟩
  refine ⟨?_, faulty, fun pointed => by cases pointed.2⟩
  unfold readLines readLinesFrom
  simp only [String.toList_ofList, whole, full, line, Bool.false_eq_true, ↓reduceIte]
  rfl

end MoteTrial.LogFile
