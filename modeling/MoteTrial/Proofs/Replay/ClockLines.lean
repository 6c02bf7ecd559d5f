import MoteTrial.Proofs.LogFile.ClockValue
import MoteTrial.Proofs.LogFile.Faults
import MoteTrial.Proofs.Replay.Order

/-! # Replaying clock values

Of the time of a line only its value is kept. A line with a clock value and the same line with the whole
number of milliseconds in its place have one record, so that a log may hold either, and its replay has
the line due at this millisecond: `clock_exact`.
-/

namespace MoteTrial.LogFile

open Text Numeral

section Line

variable {time rest : List Char}

theorem trimEnd_append {p : Char → Bool} {kept : List Char} (none : ∀ c ∈ kept, p c = false)
    (rest : List Char) : trimEnd p (kept ++ rest) = kept ++ trimEnd p rest := by
  have outside : ∀ c ∈ kept.reverse, p c = false := fun c member => none c (List.mem_reverse.mp member)
  rw [trimEnd, List.reverse_append, List.dropWhile_append, dropWhile_of_none outside, trimEnd]
  split
  · rename_i cut
    rw [List.isEmpty_iff.mp cut, List.reverse_nil, List.append_nil, List.reverse_reverse]
  · rw [List.reverse_append, List.reverse_reverse]

theorem head?_trimEnd {p : Char → Bool} {cs : List Char} {c : Char}
    (first : c ∈ (trimEnd p cs).head?) : c ∈ cs.head? := by
  have whole : trimEnd p cs ++ (cs.reverse.takeWhile p).reverse = cs := by
    rw [trimEnd, ← List.reverse_append, List.takeWhile_append_dropWhile, List.reverse_reverse]
  rw [← whole, List.head?_append, first]
  rfl

/-- Characters that are the time of a line with the others after them. -/
structure Timely (time rest : List Char) : Prop where
  full : time ≠ []
  timely : ∀ c ∈ time, isTimeChar c = true
  apart : ∀ c ∈ rest.head?, isTimeChar c = false

theorem isBlank_of_isTimeChar {c : Char} (timely : isTimeChar c = true) : isBlank c = false := by
  rcases isTimeChar_cases timely with digit | rfl | rfl
  · exact (forall_mem_asciiDigits.mpr (by decide) : ∀ c ∈ asciiDigits, isBlank c = false) c digit
  · decide
  · decide

/-- A line starts with its time, and its other fields do not depend on it. -/
theorem Timely.splitLine? (split : Timely time rest) :
    LogFile.splitLine? (time ++ rest) =
      (LogFile.splitLine? ('0' :: rest)).map fun fields => { fields with time } := by
  have unblank : (time ++ rest).dropWhile isBlank = time ++ rest := by
    obtain ⟨first, others, rfl⟩ := List.exists_cons_of_ne_nil split.full
    have visible := isBlank_of_isTimeChar (split.timely first (List.mem_cons_self ..))
    exact List.dropWhile_cons_of_neg (by simp [visible])
  have given : time.isEmpty = false := List.isEmpty_eq_false_iff.mpr split.full
  have zero : ∀ c ∈ ['0'], isTimeChar c = true := List.forall_mem_singleton.mpr (by decide)
  have unblank' : ('0' :: rest).dropWhile isBlank = ['0'] ++ rest := rfl
  unfold LogFile.splitLine?
  simp only [unblank, unblank', takeWhile_boundary split.timely split.apart,
    dropWhile_boundary split.timely split.apart, takeWhile_boundary zero split.apart,
    dropWhile_boundary zero split.apart, given, List.isEmpty_cons, Bool.false_or]
  cases rest.head?.any isBlank with
  | false => rfl
  | true =>
    cases dropMark? (rest.dropWhile isBlank) with
    | none => rfl
    | some afterMark =>
      simp only [Bool.not_true, Bool.false_eq_true, ↓reduceIte, Option.bind_eq_bind, Option.bind_some]
      cases afterMark.dropWhile isDecimalDigit with
      | nil => rfl
      | cons separator msg =>
        dsimp only
        split
        · rfl
        · rfl

/-- The mote and the message of a line, from what follows its time. -/
def event? (rest : List Char) : Option (Int × String) := do
  let fields ← LogFile.splitLine? ('0' :: rest)
  let mote ← (readInt (String.ofList fields.mote)).toOption
  return (mote, String.ofList fields.msg)

/-- Of the time of a line only its value is kept. -/
theorem Timely.record? {ms : Int} (split : Timely time rest)
    (read : readTime (String.ofList time) = .ok ms) :
    LogFile.record? (time ++ rest) = (event? rest).map fun (mote, msg) => ⟨ms, mote, msg⟩ := by
  unfold LogFile.record? event?
  rw [split.splitLine?]
  cases LogFile.splitLine? ('0' :: rest) with
  | none => rfl
  | some fields =>
    simp only [Option.map_some, Option.bind_eq_bind, Option.bind_some, read, Except.toOption]
    cases MoteTrial.readInt (String.ofList fields.mote) with
    | error f => rfl
    | ok mote => rfl

end Line

section Lines

variable {time rest raw raw' : String} {ms : Int}

/-- A line that starts with a time that can be read: it is at fault, or has its record, by what follows
the time. -/
theorem Timely.line (split : Timely time.toList rest.toList) (read : readTime time = .ok ms) :
    (Faulty (time ++ rest) ↔ event? (dropLineEnd rest.toList) = none) ∧
      recordOf? (time ++ rest) =
        (event? (dropLineEnd rest.toList)).map fun (mote, msg) => ⟨ms, mote, msg⟩ := by
  have unbroken : ∀ c ∈ time.toList, (c == '\r' || c == '\n') = false := by
    intro c member
    have visible := isBlank_of_isTimeChar (split.timely c member)
    simp only [Bool.or_eq_false_iff, beq_eq_false_iff_ne]
    constructor
    · rintro rfl
      cases visible
    · rintro rfl
      cases visible
  have whole : dropLineEnd (time ++ rest).toList = time.toList ++ dropLineEnd rest.toList := by
    rw [String.toList_append]
    exact trimEnd_append unbroken _
  have full : isBlankLine (time.toList ++ dropLineEnd rest.toList) = false := by
    obtain ⟨first, others, shape⟩ := List.exists_cons_of_ne_nil split.full
    have visible := isBlank_of_isTimeChar (split.timely first (shape ▸ List.mem_cons_self ..))
    rw [isBlankLine, shape, List.cons_append, List.all_cons, visible, Bool.false_and]
  have trimmed : Timely time.toList (dropLineEnd rest.toList) :=
    ⟨split.full, split.timely, fun c first => split.apart c (head?_trimEnd first)⟩
  have record := trimmed.record? (by rwa [String.ofList_toList])
  rw [Faulty, recordOf?, whole, full, record, if_neg Bool.false_ne_true]
  exact ⟨by simp, rfl⟩

/-- A line of a log may be exchanged for one with the same record. -/
theorem readLines_exchange (faulty : Faulty raw ↔ Faulty raw') (record : recordOf? raw = recordOf? raw')
    (before after : List String) (records : List Record) :
    readLines (before ++ raw :: after) = .ok records ↔
      readLines (before ++ raw' :: after) = .ok records := by
  rw [readLines_eq_ok, readLines_eq_ok]
  simp only [List.forall_mem_append, List.forall_mem_cons, List.filterMap_append, List.filterMap_cons,
    faulty, record]

end Lines

/-- A clock value whose hours and minutes can be read as integers is worth its milliseconds, below
10 ^ 15 of them. In a line of a log it may be exchanged for this number, and the line is then due at it
once the log is scheduled. -/
theorem clock_exact {κ μ : Type} (clock : ClockValue) (readable : clock.Readable)
    (small : clock.total < 10 ^ 15) :
    readTime clock.text = .ok clock.total ∧
      ∀ rest : String, (∀ c ∈ rest.toList.head?, isTimeChar c = false) →
        ∀ (before after : List String) (records : List Record),
          (readLines (before ++ (clock.text ++ rest) :: after) = .ok records ↔
            readLines (before ++ (decimal clock.total ++ rest) :: after) = .ok records) ∧
          (readLines (before ++ (clock.text ++ rest) :: after) = .ok records →
            ∃ r, recordOf? (clock.text ++ rest) = some r ∧ r.time = clock.total ∧
              ∀ w : World κ μ, w.now = 0 → ∃ w', Replay.schedule records w = .ok () w' ∧
                ((clock.total : Int), Event.line r.mote r.msg) ∈
                  w'.scheduler.pending.map fun a => (a.due, a.event)) := by
  have clockRead := clock.readTime_text readable small
  refine ⟨clockRead, fun rest apart before after records => ?_⟩
  have clockTimely : Timely clock.text.toList rest.toList := by
    rw [ClockValue.text, String.toList_ofList]
    exact ⟨clock.chars_ne_nil, clock.isTimeChar_chars, apart⟩
  have digitsTimely : Timely (decimal clock.total).toList rest.toList :=
    ⟨decimal_ne_nil _, all_decimal_nonneg (forall_mem_asciiDigits.mpr (by decide))
      (Int.natCast_nonneg _), apart⟩
  have writable : isWritable clock.total = true := by
    rw [isWritable_iff, Int.natAbs_natCast]
    exact Nat.lt_of_lt_of_le small (Nat.pow_le_pow_right (by decide) (by decide))
  obtain ⟨faulty, record⟩ := clockTimely.line clockRead
  obtain ⟨faulty', record'⟩ := digitsTimely.line (readTime_decimal (Int.natCast_nonneg _) writable)
  refine ⟨?_, fun read => ?_⟩
  · exact readLines_exchange (faulty.trans faulty'.symm) (record.trans record'.symm) before after records
  · obtain ⟨sound, rfl⟩ := readLines_eq_ok.mp read
    have member : clock.text ++ rest ∈ before ++ (clock.text ++ rest) :: after :=
      List.mem_append_right before (List.mem_cons_self ..)
    obtain ⟨⟨mote, msg⟩, said⟩ :=
      Option.ne_none_iff_exists'.mp fun none => sound _ member (faulty.mpr none)
    rw [said] at record
    refine ⟨_, record, rfl, fun w start => ⟨_, schedule_records_apply _ w, ?_⟩⟩
    have due := World.mem_replaying (List.mem_filterMap.mpr ⟨_, member, record⟩) start
    have onTime : max 0 (clock.total : Int) = clock.total := Int.max_eq_right (Int.natCast_nonneg _)
    rw [Record.said, Record.onClock, onTime] at due
    exact due

/-- Past seven hours, with zeros before each field and more seconds than a minute has. -/
def lateClock : ClockValue := ⟨some ⟨2, 7⟩, ⟨1, 9⟩, ⟨2, 61⟩, 2, 5, 0⟩

theorem clock_exact_late :
    lateClock.Readable ∧ lateClock.total < 10 ^ 15 ∧ isTimeChar '\t' = false ∧
      readTime "007:09:0061.250" = .ok 25801250 ∧
      readLines ["5\tID:1\tboot", "007:09:0061.250\tID:3\tx"] =
        .ok [⟨5, 1, "boot"⟩, ⟨25801250, 3, "x"⟩] ∧
      ∃ w', Replay.schedule [⟨5, 1, "boot"⟩, ⟨25801250, 3, "x"⟩] (World.plain ()) = .ok () w' ∧
        (25801250, Event.line 3 "x") ∈
          w'.scheduler.pending.map fun a => (a.due, (a.event : Event Unit)) := by
  have readable : lateClock.Readable := ⟨by decide, by decide⟩
  have small : lateClock.total < 10 ^ 15 := by decide
  obtain ⟨read, lines⟩ := @clock_exact Unit Unit lateClock readable small
  have text : lateClock.text = "007:09:0061.250" := by decide +kernel
  have total : lateClock.total = 25801250 := by decide
  rw [text, total] at lines read
  have apart : ∀ c ∈ "\tID:3\tx".toList.head?, isTimeChar c = false := by
    rintro c ⟨⟩
    rfl
  obtain ⟨exchanged, replayed⟩ := lines "\tID:3\tx" apart ["5\tID:1\tboot"] []
    [⟨5, 1, "boot"⟩, ⟨25801250, 3, "x"⟩]
  have logged := exchanged.mpr rfl
  obtain ⟨r, record, -, scheduled⟩ := replayed logged
  have line : recordOf? "007:09:0061.250\tID:3\tx" = some ⟨25801250, 3, "x"⟩ := by decide +kernel
  cases record.symm.trans line
  exact ⟨readable, small, rfl, read, logged, scheduled (World.plain ()) rfl⟩

/-- The start of a run, with one zero too many for its hours to be read. -/
def overlongHours : ClockValue := ⟨some ⟨digitLimit, 0⟩, ⟨0, 0⟩, ⟨0, 0⟩, 0, 0, 0⟩

theorem overlong_hours_unread :
    overlongHours.total = 0 ∧ readTime overlongHours.text = .error (.longNumeral 4301) ∧
      readTime overlongHours.text ≠ .ok overlongHours.total := by
  have size : (Padded.digits ⟨digitLimit, 0⟩).length = 4301 := by
    rw [Padded.digits, List.length_append, List.length_replicate]
    rfl
  have unread := overlongHours.readTime_overlong rfl (by rw [size]; decide) (by decide) (by decide)
  rw [size] at unread
  refine ⟨rfl, unread, fun read => ?_⟩
  rw [unread] at read
  cases read

end MoteTrial.LogFile
