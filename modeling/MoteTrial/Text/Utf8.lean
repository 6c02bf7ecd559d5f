/-! # Strict UTF-8

Decoding bytes that may arrive in blocks. `Utf8.step` looks at the front of the bytes: it finds a
character, or a fault with the number of bytes it covers, or sees that a character has begun and
its other bytes are still to come. `Utf8.decode` repeats this.
-/

namespace MoteTrial.Text.Utf8

/-- What is wrong with bytes that are no UTF-8. -/
inductive Cause where
  /-- No character starts with this byte. -/
  | start
  /-- A character has begun, and a byte that continues it does not follow. -/
  | continuation
  /-- The bytes end inside a character. -/
  | truncated
  deriving DecidableEq, Repr

/-- A fault: its first byte, the distance of that byte from the start, and the bytes it covers. -/
structure Fault where
  byte : UInt8
  position : Nat
  length : Nat
  cause : Cause
  deriving DecidableEq, Repr

/-- What the front of some bytes is. -/
inductive Step where
  /-- A character and the number of its bytes. -/
  | char (c : Char) (length : Nat)
  /-- A fault and the number of bytes it covers. -/
  | fault (cause : Cause) (length : Nat)
  /-- The beginning of a character. -/
  | partialChar
  deriving DecidableEq, Repr

/-- Whether a byte continues a character. -/
def isContinuation (b : UInt8) : Bool := b &&& 0xC0 == 0x80

/-- Whether the second byte of a character may follow the first: it continues the character, and the
character is not one that fewer bytes could hold, a surrogate, or beyond the last code point. -/
def mayFollow (first second : UInt8) : Bool :=
  isContinuation second &&
    !(first == 0xE0 && second < 0xA0) && !(first == 0xED && 0xA0 ≤ second) &&
    !(first == 0xF0 && second < 0x90) && !(first == 0xF4 && 0x90 ≤ second)

/-- The number of bytes of a character that starts with a byte, if one does. -/
def lengthOf? (b : UInt8) : Option Nat :=
  if b < 0x80 then some 1
  else if b < 0xC2 then none
  else if b < 0xE0 then some 2
  else if b < 0xF0 then some 3
  else if b < 0xF5 then some 4
  else none

/-- The six bits that a continuation byte holds. -/
def payload (b : UInt8) : Nat := b.toNat % 64

/-- The front of some bytes, of which there is at least one. -/
def step (first : UInt8) (rest : List UInt8) : Step :=
  match lengthOf? first with
  | none => .fault .start 1
  | some 1 => .char (Char.ofNat first.toNat) 1
  | some 2 =>
    match rest with
    | [] => .partialChar
    | b :: _ =>
      if !mayFollow first b then .fault .continuation 1
      else .char (Char.ofNat (first.toNat % 32 * 64 + payload b)) 2
  | some 3 =>
    match rest with
    | [] => .partialChar
    | [b] => if !mayFollow first b then .fault .continuation 1 else .partialChar
    | b :: c :: _ =>
      if !mayFollow first b then .fault .continuation 1
      else if !isContinuation c then .fault .continuation 2
      else .char (Char.ofNat ((first.toNat % 16 * 64 + payload b) * 64 + payload c)) 3
  | some _ =>
    match rest with
    | [] => .partialChar
    | [b] => if !mayFollow first b then .fault .continuation 1 else .partialChar
    | [b, c] =>
      if !mayFollow first b then .fault .continuation 1
      else if !isContinuation c then .fault .continuation 2 else .partialChar
    | b :: c :: d :: _ =>
      if !mayFollow first b then .fault .continuation 1
      else if !isContinuation c then .fault .continuation 2
      else if !isContinuation d then .fault .continuation 3
      else .char (Char.ofNat
        (((first.toNat % 8 * 64 + payload b) * 64 + payload c) * 64 + payload d)) 4

/-- The characters at the front of some bytes, and where they end. -/
inductive Decoded where
  /-- All characters, and the bytes of one that is not complete. -/
  | text (chars : List Char) (pending : List UInt8)
  /-- The first fault. -/
  | fault (fault : Fault)
  deriving Repr

/-- A character put before decoded ones. -/
def Decoded.cons (c : Char) : Decoded → Decoded
  | .text chars pending => .text (c :: chars) pending
  | .fault f => .fault f

/-- Decodes bytes whose first one stands at `position`. Bytes that the last step has covered are
passed over. -/
def decodeFrom (position : Nat) : Nat → List UInt8 → Decoded
  | _, [] => .text [] []
  | covered + 1, _ :: rest => decodeFrom (position + 1) covered rest
  | 0, first :: rest =>
    match step first rest with
    | .char c length => (decodeFrom (position + 1) (length - 1) rest).cons c
    | .fault cause length => .fault ⟨first, position, length, cause⟩
    | .partialChar => .text [] (first :: rest)

/-- Decodes bytes up to a fault or to a character that is not complete. -/
def decode (bytes : List UInt8) : Decoded := decodeFrom 0 0 bytes

end MoteTrial.Text.Utf8
