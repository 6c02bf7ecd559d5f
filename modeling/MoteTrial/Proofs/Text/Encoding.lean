import MoteTrial.Text.Utf8

/-! # Decoding what was encoded

The encoding of a character is one step of decoding, and a part of it is the beginning of a character.
So encoded text is decoded as it was, wherever it is cut.
-/

namespace MoteTrial.Text.Utf8

/-- The byte that continues a character with six given bits. -/
def continuing (bits : Nat) : UInt8 := UInt8.ofNat (bits + 128)

section Bytes

theorem toNat_byte {n : Nat} (small : n < 256) : (UInt8.ofNat n).toNat = n :=
  UInt8.toNat_ofNat_of_lt' small

theorem isContinuation_continuing : ∀ bits < 64, isContinuation (continuing bits) = true := by decide

theorem payload_continuing : ∀ bits < 64, payload (continuing bits) = bits := by decide

theorem lengthOf?_one : ∀ n < 128, lengthOf? (UInt8.ofNat n) = some 1 := by decide

theorem lengthOf?_two : ∀ n < 32, 2 ≤ n → lengthOf? (UInt8.ofNat (n + 192)) = some 2 := by decide

theorem lengthOf?_three : ∀ n < 16, lengthOf? (UInt8.ofNat (n + 224)) = some 3 := by decide

theorem lengthOf?_four : ∀ n < 5, lengthOf? (UInt8.ofNat (n + 240)) = some 4 := by decide

/-- The second byte of a character that no fewer bytes could hold, no surrogate, and not beyond the
last code point. -/
theorem mayFollow_continuing {n bits : Nat} (byte : n < 256) (low : bits < 64)
    (least : n = 0xE0 → 32 ≤ bits) (plain : n = 0xED → bits < 32) (least' : n = 0xF0 → 16 ≤ bits)
    (last : n = 0xF4 → bits < 16) : mayFollow (UInt8.ofNat n) (continuing bits) = true := by
  have second : (continuing bits).toNat = bits + 128 := toNat_byte (by omega)
  simp only [mayFollow, isContinuation_continuing bits low, Bool.true_and, Bool.and_eq_true,
    Bool.not_eq_true', Bool.and_eq_false_iff, beq_eq_false_iff_ne, decide_eq_false_iff_not, ne_eq,
    ← UInt8.toNat_inj, UInt8.lt_iff_toNat_lt, UInt8.le_iff_toNat_le, toNat_byte byte, second,
    UInt8.reduceToNat]
  omega

theorem mayFollow_two {n bits : Nat} (lead : n < 32) (low : bits < 64) :
    mayFollow (UInt8.ofNat (n + 192)) (continuing bits) = true :=
  mayFollow_continuing (by omega) low (by omega) (by omega) (by omega) (by omega)

theorem mayFollow_three {n bits : Nat} (lead : n < 16) (low : bits < 64) (wide : n = 0 → 32 ≤ bits)
    (plain : n = 13 → bits < 32) : mayFollow (UInt8.ofNat (n + 224)) (continuing bits) = true :=
  mayFollow_continuing (by omega) low (by omega) (by omega) (by omega) (by omega)

theorem mayFollow_four {n bits : Nat} (lead : n < 5) (low : bits < 64) (wide : n = 0 → 16 ≤ bits)
    (inside : n = 4 → bits < 16) : mayFollow (UInt8.ofNat (n + 240)) (continuing bits) = true :=
  mayFollow_continuing (by omega) low (by omega) (by omega) (by omega) (by omega)

end Bytes

/-- What decoding does at the bytes of a character: whole, they are one step; cut short after the
first, they wait for the rest. -/
structure Encodes (c : Char) (first : UInt8) (others : List UInt8) : Prop where
  whole (rest : List UInt8) : step first (others ++ rest) = .char c (others.length + 1)
  cut (k : Nat) (short : k < others.length) : step first (others.take k) = .partialChar

theorem encodes_one {c : Char} (range : c.toNat < 128) : Encodes c (UInt8.ofNat c.toNat) [] where
  whole rest := by
    have code : (UInt8.ofNat c.toNat).toNat = c.toNat := toNat_byte (by omega)
    simp only [step, lengthOf?_one c.toNat range, code, Char.ofNat_toNat, List.length_nil, Nat.zero_add]
  cut k short := absurd short (Nat.not_lt_zero k)

theorem encodes_two {c : Char} {n bits : Nat} (value : c.toNat = n * 64 + bits) (wide : 2 ≤ n)
    (lead : n < 32) (low : bits < 64) : Encodes c (UInt8.ofNat (n + 192)) [continuing bits] where
  whole rest := by
    have code : (UInt8.ofNat (n + 192)).toNat % 32 = n := by
      rw [toNat_byte (by omega)]
      omega
    simp only [step, lengthOf?_two n lead wide, List.cons_append, mayFollow_two lead low, code,
      payload_continuing bits low, ← value, Char.ofNat_toNat, Bool.not_true, Bool.false_eq_true,
      ↓reduceIte, List.length_cons, List.length_nil]
  cut k short := by
    have none : k = 0 := by simpa using short
    simp only [none, List.take_zero, step, lengthOf?_two n lead wide]

theorem encodes_three {c : Char} {n bits bits' : Nat} (value : c.toNat = (n * 64 + bits) * 64 + bits')
    (lead : n < 16) (low : bits < 64) (low' : bits' < 64) (wide : n = 0 → 32 ≤ bits)
    (plain : n = 13 → bits < 32) :
    Encodes c (UInt8.ofNat (n + 224)) [continuing bits, continuing bits'] where
  whole rest := by
    have code : (UInt8.ofNat (n + 224)).toNat % 16 = n := by
      rw [toNat_byte (by omega)]
      omega
    simp only [step, lengthOf?_three n lead, List.cons_append, mayFollow_three lead low wide plain,
      isContinuation_continuing bits' low', code, payload_continuing bits low,
      payload_continuing bits' low', ← value, Char.ofNat_toNat, Bool.not_true, Bool.false_eq_true,
      ↓reduceIte, List.length_cons, List.length_nil]
  cut k short := by
    have few : k = 0 ∨ k = 1 := by
      simp only [List.length_cons, List.length_nil] at short
      omega
    rcases few with rfl | rfl <;>
      simp only [List.take_zero, List.take_succ_cons, step, lengthOf?_three n lead,
        mayFollow_three lead low wide plain, Bool.not_true, Bool.false_eq_true, ↓reduceIte]

theorem encodes_four {c : Char} {n bits bits' bits'' : Nat}
    (value : c.toNat = ((n * 64 + bits) * 64 + bits') * 64 + bits'') (lead : n < 5) (low : bits < 64)
    (low' : bits' < 64) (low'' : bits'' < 64) (wide : n = 0 → 16 ≤ bits) (inside : n = 4 → bits < 16) :
    Encodes c (UInt8.ofNat (n + 240)) [continuing bits, continuing bits', continuing bits''] where
  whole rest := by
    have code : (UInt8.ofNat (n + 240)).toNat % 8 = n := by
      rw [toNat_byte (by omega)]
      omega
    simp only [step, lengthOf?_four n lead, List.cons_append, mayFollow_four lead low wide inside,
      isContinuation_continuing bits' low', isContinuation_continuing bits'' low'', code,
      payload_continuing bits low, payload_continuing bits' low', payload_continuing bits'' low'',
      ← value, Char.ofNat_toNat, Bool.not_true, Bool.false_eq_true, ↓reduceIte, List.length_cons,
      List.length_nil]
  cut k short := by
    have few : k = 0 ∨ k = 1 ∨ k = 2 := by
      simp only [List.length_cons, List.length_nil] at short
      omega
    rcases few with rfl | rfl | rfl <;>
      simp only [List.take_zero, List.take_succ_cons, step, lengthOf?_four n lead,
        mayFollow_four lead low wide inside, isContinuation_continuing bits' low', Bool.not_true,
        Bool.false_eq_true, ↓reduceIte]

/-- The bytes of a character. -/
theorem utf8EncodeChar_encodes (c : Char) :
    ∃ first others, String.utf8EncodeChar c = first :: others ∧ Encodes c first others := by
  have valid : c.toNat < 0xD800 ∨ 0xDFFF < c.toNat ∧ c.toNat < 0x110000 := c.valid
  unfold String.utf8EncodeChar
  simp only [show c.val.toNat = c.toNat from rfl]
  by_cases one : c.toNat ≤ 127
  · rw [if_pos one]
    exact ⟨_, _, rfl, encodes_one (by omega)⟩
  rw [if_neg one]
  by_cases two : c.toNat ≤ 2047
  · rw [if_pos two]
    exact ⟨_, [continuing (c.toNat % 64)], rfl, encodes_two (by omega) (by omega) (by omega) (by omega)⟩
  rw [if_neg two]
  by_cases three : c.toNat ≤ 65535
  · rw [if_pos three]
    exact ⟨_, [continuing (c.toNat / 64 % 64), continuing (c.toNat % 64)], rfl,
      encodes_three (by omega) (by omega) (by omega) (by omega) (by omega) (by omega)⟩
  rw [if_neg three]
  exact ⟨_, [continuing (c.toNat / 4096 % 64), continuing (c.toNat / 64 % 64),
    continuing (c.toNat % 64)], rfl,
    encodes_four (by omega) (by omega) (by omega) (by omega) (by omega) (by omega) (by omega)⟩

/-- Bytes that a step has covered are passed over. -/
theorem decodeFrom_covered (position : Nat) (covered rest : List UInt8) :
    decodeFrom position covered.length (covered ++ rest) =
      decodeFrom (position + covered.length) 0 rest := by
  induction covered generalizing position with
  | nil => rfl
  | cons b others ih =>
    rw [List.length_cons, List.cons_append, decodeFrom, ih]
    congr 1
    omega

/-- A character is decoded, and then what follows it. -/
theorem decodeFrom_char (position : Nat) (c : Char) (rest : List UInt8) :
    ∃ position', decodeFrom position 0 (String.utf8EncodeChar c ++ rest) =
      (decodeFrom position' 0 rest).cons c := by
  obtain ⟨first, others, bytes, encodes⟩ := utf8EncodeChar_encodes c
  refine ⟨position + 1 + others.length, ?_⟩
  rw [bytes, List.cons_append, decodeFrom, encodes.whole rest]
  simp only [Nat.add_sub_cancel, decodeFrom_covered]

/-- The bytes of characters. -/
def encode (cs : List Char) : List UInt8 := cs.flatMap String.utf8EncodeChar

/-- Bytes at the front of encoded characters: some of the characters, and a part of the next one. -/
theorem decodeFrom_front (position : Nat) (cs : List Char) (front later : List UInt8)
    (same : front ++ later = encode cs) :
    ∃ before after pending, cs = before ++ after ∧
      decodeFrom position 0 front = .text before pending ∧ pending ++ later = encode after ∧
      ∀ c ∈ after.head?, pending.length < (String.utf8EncodeChar c).length := by
  induction cs generalizing position front with
  | nil =>
    obtain ⟨rfl, rfl⟩ := List.append_eq_nil_iff.mp same
    exact ⟨[], [], [], rfl, rfl, rfl, nofun⟩
  | cons c rest ih =>
    rw [encode, List.flatMap_cons] at same
    by_cases whole : (String.utf8EncodeChar c).length ≤ front.length
    · obtain ⟨front', rfl⟩ : String.utf8EncodeChar c <+: front :=
        List.prefix_of_prefix_length_le (same ▸ List.prefix_append ..) ⟨later, rfl⟩ whole
      rw [List.append_assoc] at same
      obtain ⟨position', step⟩ := decodeFrom_char position c front'
      obtain ⟨before, after, pending, rfl, decoded, left, short⟩ :=
        ih position' front' (List.append_cancel_left same)
      refine ⟨c :: before, after, pending, rfl, ?_, left, short⟩
      rw [step, decoded, Decoded.cons]
    · have part : front = (String.utf8EncodeChar c).take front.length := by
        have taken := congrArg (List.take front.length) same
        rwa [List.take_left, List.take_append_of_le_length (by omega)] at taken
      have decoded : decodeFrom position 0 front = .text [] front := by
        obtain ⟨first, others, bytes, encodes⟩ := utf8EncodeChar_encodes c
        cases front with
        | nil => rfl
        | cons b bs =>
          rw [bytes, List.length_cons, List.length_cons] at whole
          rw [bytes, List.length_cons, List.take_succ_cons] at part
          rw [part, decodeFrom, encodes.cut bs.length (by omega)]
      exact ⟨[], c :: rest, front, rfl, decoded, by rw [encode, List.flatMap_cons, same],
        fun d head => by cases head; omega⟩

end MoteTrial.Text.Utf8
