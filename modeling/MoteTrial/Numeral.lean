import MoteTrial.Binary64.Basic
import MoteTrial.Text.Blank
import MoteTrial.Text.DecimalDigit

/-! # Numerals

Reading integers and decimal fractions from text, and writing integers. A numeral may be surrounded
by blanks, may use the decimal digits of any script, and may group its digits with single
underscores. Integers of more than `digitLimit` digits are neither read nor written.
-/

namespace MoteTrial.Numeral

open Text

/-- The most digits that an integer may have in text. -/
def digitLimit : Nat := 4300

/-- The text with the digits of all scripts turned into ASCII digits and their blanks into spaces;
it breaks off with a question mark at any other character outside ASCII. -/
def toAsciiForm : List Char → List Char
  | [] => []
  | c :: cs =>
    if c.toNat < 127 then c :: toAsciiForm cs
    else if isBlank c then ' ' :: toAsciiForm cs
    else match digitValue? c with
      | some value => asciiDigit value :: toAsciiForm cs
      | none => ['?']

/-- The characters of a numeral. A text of ASCII characters alone is taken as it is. -/
def asciiForm (cs : List Char) : List Char :=
  if cs.all (·.toNat < 128) then cs else toAsciiForm cs

/-- Splits off a sign; the flag tells whether it was a minus. -/
def splitSign : List Char → Bool × List Char
  | '-' :: cs => (true, cs)
  | '+' :: cs => (false, cs)
  | cs => (false, cs)

/-- Whether a character may stand in a group of digits. -/
def inDigitGroup (c : Char) : Bool := c == '_' || (asciiDigitValue? c).isSome

/-- Whether the underscores of a row of digits each stand between two digits; the flag tells whether
a digit came before. -/
def wellGrouped : Bool → List Char → Bool
  | afterDigit, [] => afterDigit
  | afterDigit, c :: cs => if c = '_' then afterDigit && wellGrouped false cs else wellGrouped true cs

/-- The value of a row of ASCII digits, other characters being passed over, most significant digit
first. -/
def digitsValue (cs : List Char) : Nat :=
  cs.foldl (fun value c => match asciiDigitValue? c with
    | some digit => 10 * value + digit
    | none => value) 0

/-- Why a text is no integer. -/
inductive Fault where
  /-- The numeral has more digits than `digitLimit`. -/
  | tooLong (digits : Nat)
  /-- The text is not an integer numeral. -/
  | malformed
  deriving DecidableEq, Repr

/-- Reads an integer: blanks, a sign, digits grouped by underscores, blanks. The length of the row
of digits is checked before what follows it. -/
def readInt (cs : List Char) : Except Fault Int :=
  let body := (asciiForm cs).dropWhile isAsciiBlank
  let (negative, unsigned) := splitSign body
  let row := unsigned.takeWhile inDigitGroup
  let rest := unsigned.dropWhile inDigitGroup
  let digits := row.filter (· != '_')
  if !wellGrouped false row then .error .malformed
  else if digitLimit < digits.length then .error (.tooLong digits.length)
  else if !rest.all isAsciiBlank then .error .malformed
  else
    let value : Int := digitsValue digits
    .ok (if negative then -value else value)

/-- Drops underscores, each of which has to stand between two digits. -/
def dropUnderscores? : Char → List Char → Option (List Char)
  | previous, [] => if previous = '_' then none else some []
  | previous, c :: cs =>
    if c = '_' then
      if (asciiDigitValue? previous).isSome then dropUnderscores? c cs else none
    else if previous = '_' && (asciiDigitValue? c).isNone then none
    else (dropUnderscores? c cs).map (c :: ·)

/-- Splits off a row of ASCII digits. -/
def splitDigits (cs : List Char) : List Char × List Char :=
  (cs.takeWhile fun c => (asciiDigitValue? c).isSome,
    cs.dropWhile fun c => (asciiDigitValue? c).isSome)

/-- The exponent at the end of a decimal fraction, zero where there is none. -/
def readExponent? : List Char → Option Int
  | [] => some 0
  | c :: cs =>
    if c = 'e' || c = 'E' then
      let (negative, unsigned) := splitSign cs
      let (digits, rest) := splitDigits unsigned
      if digits.isEmpty || !rest.isEmpty then none
      else
        let value : Int := digitsValue digits
        some (if negative then -value else value)
    else none

/-- The number nearest to `digits * 10 ^ exponent`. Beyond four hundred places before or after the
point the answer is known without computing the power. -/
def nearestDecimal (negative : Bool) (digits : List Char) (exponent : Int) : Binary64 :=
  let significant := digits.dropWhile (· == '0')
  let magnitude : Int := significant.length + exponent
  if significant.isEmpty || magnitude < -400 then .finite negative 0
  else if 400 < magnitude then .infinite negative
  else if 0 ≤ exponent then
    Binary64.ofQuotient negative (digitsValue significant * 10 ^ exponent.toNat * Binary64.one) 1
  else
    Binary64.ofQuotient negative (digitsValue significant * Binary64.one) (10 ^ (-exponent).toNat)

/-- Reads a decimal fraction without a sign. -/
def readMagnitude? (negative : Bool) (cs : List Char) : Option Binary64 :=
  let lower := cs.map Char.toLower
  if lower = ['n', 'a', 'n'] then some .nan
  else if lower = ['i', 'n', 'f'] || lower = ['i', 'n', 'f', 'i', 'n', 'i', 't', 'y'] then
    some (.infinite negative)
  else
    let (whole, afterWhole) := splitDigits cs
    let (fraction, rest) := match afterWhole with
      | '.' :: tail => splitDigits tail
      | tail => ([], tail)
    if whole.isEmpty && fraction.isEmpty then none
    else (readExponent? rest).map fun exponent =>
      nearestDecimal negative (whole ++ fraction) (exponent - fraction.length)

/-- Reads a decimal fraction: blanks, a sign, digits with a point and an exponent, or the name of an
infinity or of the undefined number. -/
def readFloat? (cs : List Char) : Option Binary64 := do
  let body := trimWhere isAsciiBlank (asciiForm cs)
  let plain ← dropUnderscores? ' ' body
  let (negative, unsigned) := splitSign plain
  readMagnitude? negative unsigned

/-- Whether an integer has few enough digits to be written. It is irreducible, since its bound is too
large to be computed with wherever an integer is written. -/
@[irreducible] def isWritable (n : Int) : Bool := n.natAbs < 10 ^ digitLimit

theorem isWritable_iff {n : Int} : isWritable n = true ↔ n.natAbs < 10 ^ digitLimit := by
  unfold isWritable
  exact decide_eq_true_iff

/-- The decimal text of an integer. -/
def decimal (n : Int) : String := toString n

end MoteTrial.Numeral
