import MoteTrial.Message
import MoteTrial.Proofs.Text.Digits

/-! # What scripts read in the lines of the firmware

How the lines that the firmware logs are classified, and which counter the reception line of a server
is read as.
-/

namespace MoteTrial

open Text

namespace Text

theorem mem_of_contains {text pattern : String} (found : contains text pattern = true) :
    ∀ c ∈ pattern.toList, c ∈ text.toList := by
  obtain ⟨before, after, shape⟩ := occursIn_iff.mp found
  intro c member
  rw [shape]
  exact List.mem_append_left _ (List.mem_append_right _ member)

/-- A text that lacks a character of a pattern does not contain it. -/
theorem contains_eq_false {text pattern : String} {c : Char} (needed : c ∈ pattern.toList)
    (missing : c ∉ text.toList) : contains text pattern = false :=
  Bool.eq_false_iff.mpr fun found => missing (mem_of_contains found c needed)

/-- What a pattern is looked for in may start with anything that lacks its first letter. -/
theorem occursIn_append {c : Char} {rest front : List Char} (absent : c ∉ front) (text : List Char) :
    occursIn (c :: rest) (front ++ text) = occursIn (c :: rest) text := by
  induction front with
  | nil => rfl
  | cons d others ih =>
    obtain ⟨differs, absent⟩ := not_or.mp (mt List.mem_cons.mpr absent)
    have mismatch : (c == d) = false := beq_eq_false_iff_ne.mpr differs
    simp only [List.cons_append, occursIn, List.isPrefixOf, mismatch, Bool.false_and, Bool.false_or,
      ih absent]

/-- A letter before a word is found where the text before the word ends with it. -/
theorem occursIn_before_word {letter : Char} {front word : List Char} (solid : ' ' ∉ front)
    (alone : occursIn (letter :: ' ' :: word) (' ' :: word) = false) :
    occursIn (letter :: ' ' :: word) (front ++ ' ' :: word) =
      decide (front.getLast? = some letter) := by
  induction front with
  | nil => exact alone
  | cons c rest ih =>
    have apart : ' ' ∉ rest := fun member => solid (List.mem_cons_of_mem _ member)
    have first : occursIn (letter :: ' ' :: word) (c :: rest ++ ' ' :: word) =
        ((letter == c && (' ' :: word).isPrefixOf (rest ++ ' ' :: word)) ||
          occursIn (letter :: ' ' :: word) (rest ++ ' ' :: word)) := rfl
    rw [first, ih apart]
    cases rest with
    | nil =>
      have same : (' ' :: word).isPrefixOf ([] ++ ' ' :: word) = true :=
        List.isPrefixOf_iff_prefix.mpr (List.prefix_refl _)
      rw [same]
      by_cases found : c = letter
      · simp [found]
      · simp [found, Ne.symm found]
    | cons d others =>
      have differs : (' ' == d) = false :=
        beq_eq_false_iff_ne.mpr fun same => apart (same ▸ List.mem_cons_self)
      simp only [List.cons_append, List.isPrefixOf, differs, Bool.false_and, Bool.and_false,
        Bool.false_or, List.getLast?_cons_cons]

theorem splitWord_append {first rest : List Char} (solid : ∀ c ∈ first, isBlank c = false) :
    splitWord (first ++ rest) = (first ++ (splitWord rest).1, (splitWord rest).2) := by
  induction first with
  | nil => rfl
  | cons c others ih =>
    simp only [List.cons_append, splitWord, ih fun d member => solid d (List.mem_cons_of_mem _ member),
      solid c (List.mem_cons_self ..), Bool.false_eq_true, ↓reduceIte]

/-- A text that starts with a blank starts with no word. -/
theorem splitWord_apart {rest : List Char} (apart : ∀ c ∈ rest.head?, isBlank c = true) :
    splitWord rest = ([], words rest) := by
  cases rest with
  | nil => rfl
  | cons c others =>
    have blank : isBlank c = true := apart c rfl
    have split : splitWord (c :: others) = ([], words others) := by
      simp only [splitWord, blank, ↓reduceIte, words]
    rw [words, split]
    rfl

/-- The first word of a text. -/
theorem words_append {first rest : List Char} (full : first ≠ [])
    (solid : ∀ c ∈ first, isBlank c = false) (apart : ∀ c ∈ rest.head?, isBlank c = true) :
    words (first ++ rest) = first :: words rest := by
  rw [words, splitWord_append solid, splitWord_apart apart, List.append_nil]
  simp only [List.isEmpty_iff, full, ↓reduceIte]

theorem words_space (rest : List Char) : words (' ' :: rest) = words rest := by
  have space : isBlank ' ' = true := by decide
  unfold words
  simp only [splitWord, space, ↓reduceIte, List.isEmpty_nil]

end Text

namespace Message

/-- A line of a kind has a keyword of that kind. -/
theorem contains_of_classify {msg : String} (known : classify msg ≠ .other) :
    ∃ keyword, (keyword, classify msg) ∈ keywords ∧ contains msg keyword = true := by
  unfold classify at known ⊢
  split at known
  · rename_i keyword kind found
    have contained := List.find?_some found
    exact ⟨keyword, List.mem_of_find?_eq_some found, contained⟩
  · exact absurd rfl known

theorem contains_of_classify_done {msg : String} (done : classify msg = .done) :
    contains msg Config.standard.keywordDone = true := by
  obtain ⟨keyword, listed, found⟩ := contains_of_classify (by rw [done]; decide)
  rw [done] at listed
  obtain rfl : keyword = Config.standard.keywordDone := by simpa [keywords] using listed
  exact found

theorem contains_of_classify_started {msg : String} (started : classify msg = .started) :
    contains msg Config.standard.keywordStarted = true := by
  obtain ⟨keyword, listed, found⟩ := contains_of_classify (by rw [started]; decide)
  rw [started] at listed
  obtain rfl : keyword = Config.standard.keywordStarted := by simpa [keywords] using listed
  exact found

/-- The line with which a mote starts has the word for the end only if the keyword has. -/
theorem contains_of_started_done {id : Int} {keyword : String}
    (done : classify (Numeral.decimal id ++ " " ++ keyword) = .done) :
    contains keyword Config.standard.keywordDone = true := by
  have found := contains_of_classify_done done
  have absent : 'd' ∉ (Numeral.decimal id ++ " ").toList := by
    rw [String.toList_append]
    intro member
    rcases List.mem_append.mp member with member | member
    · rcases Numeral.mem_decimal member with same | digit
      · cases same
      · exact absurd digit (by decide)
    · exact absurd member (by decide)
  unfold contains at found ⊢
  rw [String.toList_append] at found
  exact (occursIn_append absent keyword.toList).symm.trans found

theorem notMem_received {c : Char} (missing : c ∉ "received ".toList) (sign : c ≠ '-')
    (other : c ∉ Numeral.asciiDigits) (n : Int) : c ∉ ("received " ++ Numeral.decimal n).toList := by
  rw [String.toList_append]
  intro member
  rcases List.mem_append.mp member with member | member
  · exact missing member
  · rcases Numeral.mem_decimal member with same | digit
    · exact sign same
    · exact other digit

/-- A reception line does not contain a text with a letter that it lacks. -/
theorem contains_received {pattern : String} (c : Char) (needed : c ∈ pattern.toList)
    (missing : c ∉ "received ".toList) (sign : c ≠ '-') (other : c ∉ Numeral.asciiDigits) (n : Int) :
    contains ("received " ++ Numeral.decimal n) pattern = false :=
  contains_eq_false needed (notMem_received missing sign other n)

/-- The reception line of a server is no keyword's. -/
theorem classify_received (n : Int) : classify ("received " ++ Numeral.decimal n) = .other := by
  have unsaid : keywords.find? (fun entry => contains ("received " ++ Numeral.decimal n) entry.1) =
      none := by
    refine List.find?_eq_none.mpr fun entry member => ?_
    simp only [keywords, List.mem_cons, List.not_mem_nil, or_false] at member
    rw [Bool.not_eq_true]
    rcases member with rfl | rfl | rfl | rfl
    · exact contains_received 'o' (by decide) (by decide) (by decide) (by decide) n
    · exact contains_received 't' (by decide) (by decide) (by decide) (by decide) n
    · exact contains_received 't' (by decide) (by decide) (by decide) (by decide) n
    · exact contains_received 't' (by decide) (by decide) (by decide) (by decide) n
  unfold classify
  rw [unsaid]

/-- The line with which a mote starts. -/
def startLine (id : Int) : String := Numeral.decimal id ++ " " ++ Config.standard.keywordStarted

theorem toList_startLine (id : Int) :
    (startLine id).toList = (Numeral.decimal id).toList ++ ' ' :: "started".toList := by
  rw [startLine, String.toList_append, String.toList_append, List.append_assoc]
  rfl

theorem notMem_startLine {c : Char} (missing : c ∉ " started".toList) (sign : c ≠ '-')
    (other : c ∉ Numeral.asciiDigits) (id : Int) : c ∉ (startLine id).toList := by
  rw [toList_startLine]
  intro member
  rcases List.mem_append.mp member with member | member
  · rcases Numeral.mem_decimal member with same | digit
    · exact sign same
    · exact other digit
  · exact missing member

/-- The line with which a mote starts is no other keyword's. -/
theorem classify_startLine (id : Int) : classify (startLine id) = .started := by
  have absent {pattern : String} (c : Char) (needed : c ∈ pattern.toList)
      (missing : c ∉ " started".toList) (sign : c ≠ '-') (other : c ∉ Numeral.asciiDigits) :
      contains (startLine id) pattern = false :=
    contains_eq_false needed (notMem_startLine missing sign other id)
  have unfinished : contains (startLine id) Config.standard.keywordDone = false :=
    absent 'o' (by decide) (by decide) (by decide) (by decide)
  have early : contains (startLine id) Config.standard.keywordDeteriorate = false :=
    absent 'h' (by decide) (by decide) (by decide) (by decide)
  have late : contains (startLine id) Config.standard.keywordImprove = false :=
    absent 'h' (by decide) (by decide) (by decide) (by decide)
  have started : contains (startLine id) Config.standard.keywordStarted = true := by
    refine occursIn_iff.mpr ⟨(Numeral.decimal id ++ " ").toList, [], ?_⟩
    rw [startLine, String.toList_append, List.append_nil]
  simp only [classify, keywords, List.find?_cons, unfinished, early, late, started]

/-- A letter is found before the word of a start where the mote's identifier ends with it. -/
theorem contains_startLine {pattern : String} (letter : Char)
    (shape : pattern.toList = letter :: ' ' :: "started".toList)
    (alone : occursIn (letter :: ' ' :: "started".toList) (' ' :: "started".toList) = false)
    (id : Int) : contains (startLine id) pattern =
      decide ((id.natAbs % 10).digitChar = letter) := by
  have solid : ' ' ∉ (Numeral.decimal id).toList := by
    intro member
    rcases Numeral.mem_decimal member with same | digit
    · cases same
    · exact absurd digit (by decide)
  rw [contains, shape, toList_startLine, occursIn_before_word solid alone,
    Numeral.getLast?_decimal]
  simp

/-- The last digit of a mote that starts is taken for the end of the link that it is at. -/
theorem startedEndpoint?_startLine (id : Int) :
    startedEndpoint? Config.standard (startLine id) =
      if id.natAbs % 10 = 1 then some .first
      else if id.natAbs % 10 = 3 then some .third
      else none := by
  have first : contains (startLine id) ("1 " ++ Config.standard.keywordStarted) =
      decide (id.natAbs % 10 = 1) := by
    rw [contains_startLine '1' (by decide) (by decide) id]
    simp
  have third : contains (startLine id) ("3 " ++ Config.standard.keywordStarted) =
      decide (id.natAbs % 10 = 3) := by
    rw [contains_startLine '3' (by decide) (by decide) id]
    simp
  simp only [startedEndpoint?, first, third, decide_eq_true_eq]

theorem parseReceived_other {msg : String}
    (other : startsWith msg Config.standard.keywordReceived = false) :
    parseReceived Config.standard msg = .ok none := by
  rw [parseReceived, other]
  rfl

/-- A line with which a mote starts begins with a number. -/
theorem parseReceived_startLine (id : Int) :
    parseReceived Config.standard (startLine id) = .ok none := by
  apply parseReceived_other
  obtain ⟨first, rest, shape⟩ := List.exists_cons_of_ne_nil (Numeral.decimal_ne_nil id)
  have other : first ≠ 'r' :=
    Numeral.all_decimal (p := (· ≠ 'r')) (by decide) (Numeral.forall_mem_asciiDigits.mpr (by decide)) id
      first (shape ▸ List.mem_cons_self ..)
  have differs : ('r' == first) = false := beq_eq_false_iff_ne.mpr other.symm
  have keyword : Config.standard.keywordReceived.toList = 'r' :: "eceived".toList := rfl
  simp only [startsWith, keyword, toList_startLine, shape, List.cons_append, List.isPrefixOf,
    differs, Bool.false_and]

/-- The counter of a reception line is read as it was written, whatever stands after it and a blank. -/
theorem parseReceived_received_append {n : Int} (writable : Numeral.isWritable n = true)
    {rest : List Char} (apart : ∀ c ∈ rest.head?, isBlank c = true) :
    parseReceived Config.standard ("received " ++ Numeral.decimal n ++ String.ofList rest) =
      .ok (some n) := by
  have shape : ("received " ++ Numeral.decimal n ++ String.ofList rest).toList =
      "received".toList ++ ' ' :: ((Numeral.decimal n).toList ++ rest) := by
    simp only [String.toList_append, String.toList_ofList, List.append_assoc]
    rfl
  have starts : startsWith ("received " ++ Numeral.decimal n ++ String.ofList rest)
      Config.standard.keywordReceived = true := by
    rw [startsWith, shape]
    exact List.isPrefixOf_iff_prefix.mpr (List.prefix_append ..)
  have letters : ∀ c ∈ "received".toList, isBlank c = false := fun c member =>
    Bool.eq_false_iff.mpr
      (List.any_eq_false.mp (by decide : "received".toList.any isBlank = false) c member)
  have solid : ∀ c ∈ (Numeral.decimal n).toList, isBlank c = false :=
    Numeral.all_decimal (by decide) (Numeral.forall_mem_asciiDigits.mpr (by decide)) n
  have split : words ("received".toList ++ ' ' :: ((Numeral.decimal n).toList ++ rest)) =
      "received".toList :: (Numeral.decimal n).toList :: words rest := by
    rw [words_append (by decide) letters (by rintro c ⟨⟩; rfl), words_space,
      words_append (Numeral.decimal_ne_nil n) solid apart]
  unfold parseReceived
  simp only [starts, shape, split, Numeral.readInt_decimal writable, Bool.not_true, Bool.false_eq_true,
    ↓reduceIte, List.getElem?_cons_succ, List.getElem?_cons_zero]

theorem parseReceived_received {n : Int} (writable : Numeral.isWritable n = true) :
    parseReceived Config.standard ("received " ++ Numeral.decimal n) = .ok (some n) := by
  have apart : ∀ c ∈ ([] : List Char).head?, isBlank c = true := nofun
  have read := parseReceived_received_append writable apart
  rwa [String.ofList_nil, String.append_empty] at read

end Message

end MoteTrial
