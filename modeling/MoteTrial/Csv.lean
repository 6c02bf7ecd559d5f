/-! # Comma-separated records

A record is a line of fields with commas between them and `\r\n` after them. A field that holds a
comma, a quotation mark or a character of a line end is written between quotation marks, with the
marks inside it doubled. `decode` reads records back: `decode_join_record` says that it gives what
was written.
-/

namespace MoteTrial.Csv

/-- Whether a character forces its field between quotation marks. -/
def isSpecial (c : Char) : Bool := c == ',' || c == '"' || c == '\r' || c == '\n'

/-- The characters of a field with its quotation marks doubled. -/
def double (cs : List Char) : List Char := cs.flatMap fun c => if c = '"' then ['"', '"'] else [c]

/-- One field as it is written. -/
def field (cs : List Char) : List Char :=
  if cs.any isSpecial then '"' :: (double cs ++ ['"']) else cs

/-- The fields of a record with commas between them. -/
def fields : List (List Char) → List Char
  | [] => []
  | [single] => field single
  | first :: rest => field first ++ ',' :: fields rest

/-- A record with its line end. -/
def record (texts : List String) : String :=
  String.ofList (fields (texts.map String.toList) ++ ['\r', '\n'])

/-- Reads a field after its opening quotation mark, up to the closing one: its text and what comes
after it. -/
def readQuoted? : List Char → Option (List Char × List Char)
  | [] => none
  | '"' :: '"' :: rest => (readQuoted? rest).map fun (text, rest) => ('"' :: text, rest)
  | c :: rest =>
    if c = '"' then some ([], rest)
    else (readQuoted? rest).map fun (text, rest) => (c :: text, rest)

/-- Reads a field: its text and what comes after it. -/
def readField? : List Char → Option (List Char × List Char)
  | '"' :: rest => readQuoted? rest
  | cs => some (cs.takeWhile (!isSpecial ·), cs.dropWhile (!isSpecial ·))

/-- Reads a record of at most as many fields as the fuel allows: its fields and what comes after its
line end. -/
def readRecord? : Nat → List Char → Option (List (List Char) × List Char)
  | 0, _ => none
  | fuel + 1, cs =>
    match readField? cs with
    | some (first, ',' :: rest) =>
      (readRecord? fuel rest).map fun (others, rest) => (first :: others, rest)
    | some (first, '\r' :: '\n' :: rest) => some ([first], rest)
    | _ => none

/-- Reads at most as many records as the fuel allows. -/
def readRecords? : Nat → List Char → Option (List (List (List Char)))
  | _, [] => some []
  | 0, _ => none
  | fuel + 1, cs => do
    let (first, rest) ← readRecord? (cs.length + 1) cs
    return first :: (← readRecords? fuel rest)

/-- The records of a text that consists of records. -/
def decode (text : String) : Option (List (List String)) :=
  (readRecords? text.toList.length text.toList).map (·.map (·.map String.ofList))

theorem readQuoted?_double (text : List Char) {rest : List Char} (h : rest.head? ≠ some '"') :
    readQuoted? (double text ++ '"' :: rest) = some (text, rest) := by
  induction text with
  | nil =>
    match rest with
    | [] => rfl
    | c :: cs =>
      have : c ≠ '"' := by simpa using h
      unfold readQuoted?
      simp [double, this]
  | cons c cs ih =>
    by_cases mark : c = '"'
    · subst mark
      have ih : readQuoted? (double cs ++ '"' :: rest) = some (cs, rest) := ih
      change readQuoted? ('"' :: '"' :: (double cs ++ '"' :: rest)) = _
      simp [readQuoted?, ih]
    · have split : double (c :: cs) = c :: double cs := by simp [double, mark]
      rw [split, List.cons_append, readQuoted?]
      · simp [mark, ih]
      · rintro _ rfl
        exact absurd rfl mark

theorem readField?_field (text : List Char) {c : Char} (rest : List Char)
    (special : isSpecial c = true) (h : c ≠ '"') :
    readField? (field text ++ c :: rest) = some (text, c :: rest) := by
  unfold field
  split
  · have stops : (c :: rest).head? ≠ some '"' := by simpa using h
    simp [readField?, readQuoted?_double text stops]
  · rename_i plain
    have plain : ∀ x ∈ text, isSpecial x = false := by simpa using plain
    rw [readField?]
    · rw [List.takeWhile_append_of_pos (by simpa using plain),
        List.dropWhile_append_of_pos (by simpa using plain)]
      simp [special]
    · rintro cs start
      match text with
      | [] => exact h (List.cons.inj start).1
      | x :: xs =>
        have := plain x (List.mem_cons_self ..)
        rw [(List.cons.inj start).1] at this
        exact absurd this (by decide)

theorem readRecord?_fields (texts : List (List Char)) (nonempty : texts ≠ []) (rest : List Char)
    {fuel : Nat} (enough : texts.length ≤ fuel) :
    readRecord? fuel (fields texts ++ '\r' :: '\n' :: rest) = some (texts, rest) := by
  induction texts generalizing fuel with
  | nil => exact absurd rfl nonempty
  | cons first others ih =>
    obtain ⟨fuel, rfl⟩ : ∃ n, fuel = n + 1 := ⟨fuel - 1, by simp at enough; omega⟩
    match others with
    | [] => simp [readRecord?, fields, readField?_field first _ (c := '\r') rfl (by decide)]
    | second :: others =>
      have later := ih (by simp) (Nat.le_of_succ_le_succ enough)
      simp [readRecord?, fields, readField?_field first _ (c := ',') rfl (by decide), later]

theorem length_le_length_fields (texts : List (List Char)) :
    texts.length ≤ (fields texts).length + 1 := by
  induction texts with
  | nil => simp
  | cons first others ih =>
    match others with
    | [] => simp
    | second :: others =>
      simp only [fields, List.length_append, List.length_cons] at ih ⊢
      omega

theorem readRecords?_flatten (rows : List (List (List Char))) (nonempty : ∀ row ∈ rows, row ≠ [])
    {fuel : Nat} (enough : rows.length ≤ fuel) :
    readRecords? fuel (rows.flatMap fun row => fields row ++ ['\r', '\n']) = some rows := by
  induction rows generalizing fuel with
  | nil => cases fuel <;> rfl
  | cons row rows ih =>
    obtain ⟨fuel, rfl⟩ : ∃ n, fuel = n + 1 := ⟨fuel - 1, by simp at enough; omega⟩
    have later := ih (fun row member => nonempty row (List.mem_cons_of_mem _ member))
      (Nat.le_of_succ_le_succ enough)
    rw [List.flatMap_cons, List.append_assoc]
    generalize (rows.flatMap fun row => fields row ++ ['\r', '\n']) = rest at later ⊢
    have enough : row.length ≤ (fields row ++ '\r' :: '\n' :: rest).length + 1 := by
      have := length_le_length_fields row
      simp only [List.length_append]
      omega
    have one := readRecord?_fields row (nonempty row (List.mem_cons_self ..)) rest enough
    rw [readRecords?]
    · simp only [List.cons_append, List.nil_append]
      rw [one]
      simp [later]
    · intro none
      simp at none

theorem toList_join_record (rows : List (List String)) :
    (String.join (rows.map record)).toList =
      (rows.map (·.map String.toList)).flatMap fun row => fields row ++ ['\r', '\n'] := by
  induction rows with
  | nil => rfl
  | cons row rows ih => simp [record, ih]

/-- Records are read back as they were written. -/
theorem decode_join_record (rows : List (List String)) (nonempty : ∀ row ∈ rows, row ≠ []) :
    decode (String.join (rows.map record)) = some rows := by
  have count : (rows.map (·.map String.toList)).length ≤
      (String.join (rows.map record)).toList.length := by
    rw [toList_join_record]
    generalize rows.map (·.map String.toList) = rows
    induction rows with
    | nil => simp
    | cons row rows ih =>
      simp only [List.flatMap_cons, List.length_append, List.length_cons] at ih ⊢
      omega
  unfold decode
  rw [toList_join_record] at count ⊢
  rw [readRecords?_flatten _ (by simpa using nonempty) count]
  simp [Function.comp_def]

end MoteTrial.Csv
