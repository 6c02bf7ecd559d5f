import MoteTrial.LogFile.Content
import MoteTrial.Proofs.Text.Encoding
import MoteTrial.Proofs.Text.LogText

/-! # Reading back a log file

A file of written records, with blank lines among them and any of the three line ends after each line,
gives the records that were written.
-/

namespace MoteTrial.LogFile

open Text

section Decoding

theorem flatten_blocks (fuel : Nat) (bytes : List UInt8) : (blocks fuel bytes).flatten = bytes := by
  induction fuel generalizing bytes with
  | zero => cases bytes <;> simp [blocks]
  | succ fuel ih =>
    cases bytes with
    | nil => rfl
    | cons b rest =>
      rw [blocks, List.flatten_cons, ih, List.take_append_drop]
      exact List.cons_ne_nil b rest

/-- Encoded characters are decoded from any blocks, the bytes of a character that was cut being put
before the next block. -/
theorem decodeBlocks_encode {cs : List Char} {pending : List UInt8} {later : List (List UInt8)}
    (same : pending ++ later.flatten = Utf8.encode cs)
    (short : ∀ c ∈ cs.head?, pending.length < (String.utf8EncodeChar c).length) :
    decodeBlocks pending later = ⟨cs, none⟩ := by
  induction later generalizing cs pending with
  | nil =>
    rw [List.flatten_nil, List.append_nil] at same
    cases cs with
    | nil =>
      cases same
      rfl
    | cons c rest =>
      have := short c rfl
      rw [same, Utf8.encode, List.flatMap_cons, List.length_append] at this
      omega
  | cons block later ih =>
    rw [List.flatten_cons, ← List.append_assoc] at same
    obtain ⟨before, after, pending', rfl, decoded, left, short'⟩ :=
      Utf8.decodeFrom_front 0 cs (pending ++ block) later.flatten same
    rw [decodeBlocks, Utf8.decode, decoded]
    simp only [ih left short', Content.after]

theorem decode_encode (cs : List Char) : decode (Utf8.encode cs) = ⟨cs, none⟩ := by
  refine decodeBlocks_encode ?_ fun c _ => ?_
  · rw [flatten_blocks, List.nil_append]
  · rw [String.length_utf8EncodeChar]
    exact Char.utf8Size_pos c

theorem ofBytes_encode (cs : List Char) :
    ofBytes (Utf8.encode cs) = readLines (lines (unifyLineEnds cs)) := by
  rw [ofBytes, decode_encode]

theorem toUTF8_eq_encode (text : String) : text.toUTF8.data.toList = Utf8.encode text.toList := by
  have bytes : text.toUTF8 = text.toList.utf8Encode := by
    rw [String.toUTF8, ← String.toByteArray_ofList, String.ofList_toList]
  rw [bytes, List.utf8Encode, List.data_toByteArray, Utf8.encode]

end Decoding

section LineEnds

/-- The ways to end a line. -/
inductive LineEnd where
  | feed
  | carriage
  | both
  deriving DecidableEq, Repr

/-- The characters of a line end. -/
def LineEnd.chars : LineEnd → List Char
  | .feed => ['\n']
  | .carriage => ['\r']
  | .both => ['\r', '\n']

/-- A line of a file: a text without line ends, and the end of the line. -/
structure FileLine where
  text : List Char
  ending : LineEnd
  unbroken : '\n' ∉ text ∧ '\r' ∉ text

/-- The characters of a line with its end. -/
def FileLine.chars (l : FileLine) : List Char := l.text ++ l.ending.chars

/-- Whether a line holds more than blanks. -/
def visible (line : List Char) : Bool := !isBlankLine line

theorem unifyLineEnds_cons {c : Char} (other : c ≠ '\r') (rest : List Char) :
    unifyLineEnds (c :: rest) = c :: unifyLineEnds rest := by
  rw [unifyLineEnds]
  · rw [if_neg other]
  · exact fun _ same _ => other same

theorem unifyLineEnds_append {text : List Char} (unbroken : '\r' ∉ text) (rest : List Char) :
    unifyLineEnds (text ++ rest) = text ++ unifyLineEnds rest := by
  induction text with
  | nil => rfl
  | cons c others ih =>
    rw [List.mem_cons, not_or] at unbroken
    rw [List.cons_append, unifyLineEnds_cons fun same => unbroken.1 same.symm, ih unbroken.2,
      List.cons_append]

/-- A carriage return before a line feed vanishes. -/
theorem unifyLineEnds_carriage_feed (rest : List Char) :
    unifyLineEnds ('\r' :: '\n' :: rest) = unifyLineEnds ('\n' :: rest) := by
  rw [unifyLineEnds, unifyLineEnds_cons (by decide)]

theorem unifyLineEnds_carriage {rest : List Char} (other : rest.head? ≠ some '\n') :
    unifyLineEnds ('\r' :: rest) = '\n' :: unifyLineEnds rest := by
  rw [unifyLineEnds]
  · rfl
  · rintro later - rfl
    exact other rfl

/-- The lines of a file once all line ends are line feeds: those that hold more than blanks are the
same. -/
structure Unifies (file : List FileLine) (texts : List (List Char)) : Prop where
  chars : unifyLineEnds (file.flatMap FileLine.chars) = texts.flatMap (· ++ ['\n'])
  unbroken : ∀ text ∈ texts, '\n' ∉ text
  full : texts.filter visible = (file.map FileLine.text).filter visible

section Unifies

variable {l : FileLine} {rest : List FileLine} {texts : List (List Char)}

/-- A line whose end becomes a line feed of its own. -/
theorem Unifies.cons (later : Unifies rest texts)
    (fed : unifyLineEnds (l.ending.chars ++ rest.flatMap FileLine.chars) =
      '\n' :: unifyLineEnds (rest.flatMap FileLine.chars)) : Unifies (l :: rest) (l.text :: texts) where
  chars := by
    rw [List.flatMap_cons, FileLine.chars, List.append_assoc, unifyLineEnds_append l.unbroken.2, fed,
      later.chars, List.flatMap_cons, List.append_assoc, List.singleton_append]
  unbroken := List.forall_mem_cons.mpr ⟨l.unbroken.1, later.unbroken⟩
  full := by rw [List.map_cons, List.filter_cons, List.filter_cons, later.full]

/-- A line whose carriage return becomes one with the line feed of the empty line after it. -/
theorem Unifies.merge (later : Unifies rest texts) (ending : l.ending = .carriage)
    {after : List Char} (next : rest.flatMap FileLine.chars = '\n' :: after) :
    Unifies (l :: rest) (l.text :: texts.tail) := by
  have chars := later.chars
  rw [next, unifyLineEnds_cons (by decide)] at chars
  cases texts with
  | nil => cases chars
  | cons text others =>
    have empty : text = [] := by
      cases text with
      | nil => rfl
      | cons c _ =>
        rw [List.flatMap_cons, List.append_assoc, List.cons_append] at chars
        exact absurd ((List.cons.inj chars).1 ▸ List.mem_cons_self ..)
          (later.unbroken _ (List.mem_cons_self ..))
    subst empty
    refine ⟨?_, ?_, ?_⟩
    · rw [List.flatMap_cons, FileLine.chars, List.append_assoc, unifyLineEnds_append l.unbroken.2,
        ending, LineEnd.chars, List.singleton_append, next, unifyLineEnds_carriage_feed, ← next,
        later.chars, List.tail_cons, List.flatMap_cons, List.flatMap_cons, List.nil_append,
        List.append_assoc]
    · exact List.forall_mem_cons.mpr ⟨l.unbroken.1, (List.forall_mem_cons.mp later.unbroken).2⟩
    · have blank : visible [] = false := rfl
      have full := later.full
      rw [List.filter_cons, blank] at full
      rw [List.tail_cons, List.map_cons, List.filter_cons, List.filter_cons, ← full]
      rfl

end Unifies

theorem exists_unifies (file : List FileLine) : ∃ texts, Unifies file texts := by
  induction file with
  | nil => exact ⟨[], rfl, nofun, rfl⟩
  | cons l rest ih =>
    obtain ⟨texts, later⟩ := ih
    cases ending : l.ending with
    | feed =>
      refine ⟨_, later.cons ?_⟩
      rw [ending, LineEnd.chars, List.singleton_append, unifyLineEnds_cons (by decide)]
    | both =>
      refine ⟨_, later.cons ?_⟩
      rw [ending, LineEnd.chars, List.cons_append, List.singleton_append, unifyLineEnds]
    | carriage =>
      by_cases next : (rest.flatMap FileLine.chars).head? = some '\n'
      · obtain ⟨after, shape⟩ := List.head?_eq_some_iff.mp next
        exact ⟨_, later.merge ending shape⟩
      · refine ⟨_, later.cons ?_⟩
        rw [ending, LineEnd.chars, List.singleton_append, unifyLineEnds_carriage next]

/-- The first line of a text. -/
theorem lines_cons {text : List Char} (unbroken : '\n' ∉ text) (rest : List Char) :
    lines (text ++ '\n' :: rest) = String.ofList (text ++ ['\n']) :: lines rest := by
  have split : splitLines (text ++ '\n' :: rest) = (text ++ ['\n'],
      if (splitLines rest).1.isEmpty then (splitLines rest).2
      else (splitLines rest).1 :: (splitLines rest).2) := by
    induction text with
    | nil => rfl
    | cons c others ih =>
      rw [List.mem_cons, not_or] at unbroken
      have other : c ≠ '\n' := fun same => unbroken.1 same.symm
      simp only [List.cons_append, splitLines, ih unbroken.2, other, ↓reduceIte]
  unfold lines
  rw [split]
  simp

theorem lines_flatMap {texts : List (List Char)} (unbroken : ∀ text ∈ texts, '\n' ∉ text) :
    lines (texts.flatMap (· ++ ['\n'])) = texts.map fun text => String.ofList (text ++ ['\n']) := by
  induction texts with
  | nil => rfl
  | cons text others ih =>
    obtain ⟨here, later⟩ := List.forall_mem_cons.mp unbroken
    rw [List.flatMap_cons, List.append_assoc, List.singleton_append, lines_cons here, ih later,
      List.map_cons]

end LineEnds

section Records

/-- Whether a line is blank does not depend on its line end. -/
theorem isBlankLine_dropLineEnd (raw : List Char) :
    isBlankLine (dropLineEnd raw) = isBlankLine raw := by
  let isEnd : Char → Bool := fun c => c == '\r' || c == '\n'
  have blank : ∀ c, isEnd c = true → isBlank c = true := by
    intro c ends
    simp only [isEnd, Bool.or_eq_true, beq_iff_eq] at ends
    rcases ends with rfl | rfl <;> decide
  have dropped : (raw.reverse.takeWhile isEnd).all isBlank = true :=
    List.all_eq_true.mpr fun c member => blank c (List.all_eq_true.mp List.all_takeWhile c member)
  calc isBlankLine (dropLineEnd raw) = (raw.reverse.dropWhile isEnd).all isBlank := List.all_reverse
    _ = (raw.reverse.takeWhile isEnd ++ raw.reverse.dropWhile isEnd).all isBlank := by
      rw [List.all_append, dropped, Bool.true_and]
    _ = isBlankLine raw := by
      rw [List.takeWhile_append_dropWhile, List.all_reverse]
      rfl

theorem dropLineEnd_append_feed (text : List Char) : dropLineEnd (text ++ ['\n']) = dropLineEnd text := by
  rw [dropLineEnd, trimEnd, List.reverse_append, List.reverse_singleton, List.singleton_append,
    List.dropWhile_cons_of_pos (by decide)]
  rfl

theorem filter_map_dropLineEnd (raws : List (List Char)) :
    (raws.map dropLineEnd).filter visible = (raws.filter visible).map dropLineEnd := by
  rw [List.filter_map]
  congr 1
  refine List.filter_congr fun raw _ => ?_
  rw [Function.comp_apply, visible, isBlankLine_dropLineEnd, visible]

/-- Lines of which those that hold more than blanks are the written records, up to line ends. By
induction on the lines. -/
theorem readLinesFrom_visible {records : List Record} (legible : ∀ r ∈ records, r.Legible)
    {raws : List String} (same : (raws.map fun raw => dropLineEnd raw.toList).filter visible =
      records.map (·.write.toList)) (number : Nat) (before : Array Record) :
    readLinesFrom number before raws = .ok (before ++ records.toArray) := by
  induction raws generalizing records number before with
  | nil =>
    have none : records = [] := List.map_eq_nil_iff.mp same.symm
    rw [none, readLinesFrom]
    simp
  | cons raw rest ih =>
    rw [List.map_cons] at same
    cases blank : isBlankLine (dropLineEnd raw.toList) with
    | true =>
      rw [List.filter_cons_of_neg (by simp [visible, blank])] at same
      simp only [readLinesFrom, blank, ↓reduceIte]
      exact ih legible same _ _
    | false =>
      rw [List.filter_cons_of_pos (by simp [visible, blank])] at same
      cases records with
      | nil => cases same
      | cons r others =>
        obtain ⟨here, later⟩ := List.cons.inj same
        obtain ⟨first, legible'⟩ := List.forall_mem_cons.mp legible
        rw [here] at blank
        simp only [readLinesFrom, here, blank, readLine_write first, Bool.false_eq_true, ↓reduceIte]
        rw [ih legible' later]
        simp

theorem readLines_visible {records : List Record} (legible : ∀ r ∈ records, r.Legible)
    {raws : List String} (same : ((raws.map String.toList).filter visible).map dropLineEnd =
      records.map (·.write.toList)) : readLines raws = .ok records := by
  rw [← filter_map_dropLineEnd, List.map_map] at same
  rw [readLines, readLinesFrom_visible legible same]
  change Except.ok (#[] ++ records.toArray).toList = _
  rw [Array.empty_append]

theorem map_dropLineEnd_write {records : List Record} (legible : ∀ r ∈ records, r.Legible) :
    (records.map (·.write.toList)).map dropLineEnd = records.map (·.write.toList) := by
  rw [List.map_map]
  exact List.map_congr_left fun r member => dropLineEnd_write (legible r member)

end Records

/-- Records that are written as lines are read back, with any blank lines among them; and so are the
records of a file of such lines, however each line ends. -/
theorem log_round_trip {records : List Record} (legible : ∀ r ∈ records, r.Legible) :
    (∀ raws : List String, raws.filter (fun raw => visible raw.toList) = records.map Record.write →
      readLines raws = .ok records) ∧
    ∀ file : List FileLine, (file.map FileLine.text).filter visible = records.map (·.write.toList) →
      ofBytes (String.ofList (file.flatMap FileLine.chars)).toUTF8.data.toList = .ok records := by
  constructor
  · intro raws same
    refine readLines_visible legible ?_
    rw [List.filter_map]
    change ((raws.filter fun raw => visible raw.toList).map String.toList).map dropLineEnd = _
    have written : (records.map Record.write).map String.toList = records.map (·.write.toList) :=
      List.map_map ..
    rw [same, written]
    exact map_dropLineEnd_write legible
  · intro file same
    obtain ⟨texts, unifies⟩ := exists_unifies file
    rw [toUTF8_eq_encode, String.toList_ofList, ofBytes_encode, unifies.chars,
      lines_flatMap unifies.unbroken]
    have fed : ((texts.map fun text => String.ofList (text ++ ['\n'])).map String.toList).map
        dropLineEnd = texts.map dropLineEnd := by
      simp only [List.map_map]
      refine List.map_congr_left fun text _ => ?_
      simp only [Function.comp_apply, String.toList_ofList, dropLineEnd_append_feed]
    refine readLines_visible legible ?_
    rw [← filter_map_dropLineEnd, fed, filter_map_dropLineEnd, unifies.full, same]
    exact map_dropLineEnd_write legible

/-- A message that looks like a line, and an empty one. -/
def oddRecords : List Record := [⟨0, 1, "  5\tID:2\tx "⟩, ⟨7, 12, ""⟩]

/-- The lines of these records, ended in different ways, with blank lines before and between them. -/
def oddFile : List FileLine :=
  [⟨[], .carriage, by decide⟩, ⟨[], .feed, by decide⟩,
    ⟨"0\tID:1\t  5\tID:2\tx ".toList, .both, by decide +kernel⟩, ⟨[' ', '\t'], .carriage, by decide⟩,
    ⟨"7\tID:12\t".toList, .feed, by decide +kernel⟩]

theorem log_round_trip_odd :
    readLines ["", "0\tID:1\t  5\tID:2\tx ", " \n", "7\tID:12\t"] = .ok oddRecords ∧
      ofBytes (String.ofList (oddFile.flatMap FileLine.chars)).toUTF8.data.toList =
        .ok oddRecords := by
  have legible : ∀ r ∈ oddRecords, r.Legible := by
    intro r member
    simp only [oddRecords, List.mem_cons, List.not_mem_nil, or_false] at member
    rcases member with rfl | rfl
    · exact ⟨by decide, by decide +kernel, by decide, by decide +kernel, by decide +kernel⟩
    · exact ⟨by decide, by decide +kernel, by decide, by decide +kernel, by decide +kernel⟩
  exact ⟨(log_round_trip legible).1 _ (by decide +kernel),
    (log_round_trip legible).2 oddFile (by decide +kernel)⟩

end MoteTrial.LogFile
