/-! # Searching a text

Whether one text occurs inside another, stated on characters: `occursIn` looks for the pattern at
every position from left to right.
-/

namespace MoteTrial.Text

/-- A pattern occurs in a text if it starts at one of its positions. -/
def occursIn (pattern : List Char) : List Char → Bool
  | [] => pattern.isEmpty
  | c :: cs => pattern.isPrefixOf (c :: cs) || occursIn pattern cs

/-- A pattern occurs exactly in the texts that surround it with something. -/
theorem occursIn_iff {pattern text : List Char} :
    occursIn pattern text = true ↔ ∃ before after, text = before ++ pattern ++ after := by
  induction text with
  | nil =>
    simp only [occursIn, List.isEmpty_iff]
    constructor
    · rintro rfl
      exact ⟨[], [], rfl⟩
    · rintro ⟨before, after, h⟩
      have := congrArg List.length h
      simp only [List.length_nil, List.length_append] at this
      exact List.length_eq_zero_iff.mp (by omega)
  | cons c cs ih =>
    simp only [occursIn, Bool.or_eq_true, ih, List.isPrefixOf_iff_prefix]
    constructor
    · rintro (⟨after, h⟩ | ⟨before, after, h⟩)
      · exact ⟨[], after, h.symm⟩
      · exact ⟨c :: before, after, by simp [h]⟩
    · rintro ⟨before, after, h⟩
      cases before with
      | nil => exact .inl ⟨after, by simpa using h.symm⟩
      | cons d before =>
        simp only [List.cons_append, List.cons.injEq] at h
        exact .inr ⟨before, after, h.2⟩

/-- Whether a text contains another one. -/
def contains (text pattern : String) : Bool := occursIn pattern.toList text.toList

/-- Whether a text starts with another one. -/
def startsWith (text pattern : String) : Bool := pattern.toList.isPrefixOf text.toList

end MoteTrial.Text
