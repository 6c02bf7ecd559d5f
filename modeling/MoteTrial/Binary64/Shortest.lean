import MoteTrial.Binary64.Basic

/-! # Shortest decimal text of a double

`Binary64.shortest` finds the fewest significant digits whose value reads back as the same number,
and among these the digits nearest to it. On each decimal grid only the two neighbours of the
number need to be tried: if any point of the grid reads back, so does one of them.
`Binary64.render` writes those digits in the notation of reports, `Binary64.percent` writes a number
as a percentage with one decimal place.
-/

namespace MoteTrial.Binary64

/-- A positive decimal number `digits * 10 ^ exponent`. -/
structure Decimal where
  digits : Nat
  exponent : Int
  deriving DecidableEq, Repr, Inhabited

namespace Decimal

/-- Compares a decimal number with a count of quarter units: the sides of the inequality, scaled to
whole numbers. -/
def scaled (d : Decimal) (quarters : Nat) : Nat × Nat :=
  if 0 ≤ d.exponent then (d.digits * 10 ^ d.exponent.toNat * (4 * one), quarters)
  else (d.digits * (4 * one), quarters * 10 ^ (-d.exponent).toNat)

/-- The distance between a decimal number and a count of quarter units, on the common scale. -/
def distance (d : Decimal) (quarters : Nat) : Nat :=
  let (a, b) := d.scaled quarters
  if a ≤ b then b - a else a - b

/-- Drops zeros at the end of the digits. -/
def stripZeros : Nat → Decimal → Decimal
  | 0, d => d
  | fuel + 1, d =>
    if d.digits % 10 = 0 ∧ d.digits ≠ 0 then stripZeros fuel ⟨d.digits / 10, d.exponent + 1⟩ else d

end Decimal

/-- The numbers that round to a given count of units, as an interval of quarter units with a flag
telling whether its ends belong to it. -/
structure Cell where
  low : Nat
  high : Nat
  closed : Bool

/-- The rounding cell of a representable count of units. -/
def cell (units : Nat) : Cell :=
  let shift := surplusBits units
  let ulp := 2 ^ shift
  let below := if units = 2 ^ 52 * ulp && 0 < shift then ulp else 2 * ulp
  ⟨4 * units - below, 4 * units + 2 * ulp, units / ulp % 2 = 0⟩

/-- Whether a decimal number lies in a rounding cell. -/
def Cell.holds (c : Cell) (d : Decimal) : Bool :=
  let (a, low) := d.scaled c.low
  let (b, high) := d.scaled c.high
  if c.closed then low ≤ a && b ≤ high else low < a && b < high

/-- Whether a power of ten is at most a count of units. -/
def powerAtMost (exponent : Int) (units : Nat) : Bool :=
  let (a, b) := Decimal.scaled ⟨1, exponent⟩ (4 * units)
  a ≤ b

/-- The decimal exponent of the leading digit of a positive number. -/
def leadingExponent (units : Nat) : Int :=
  let guess := ((units.log2 : Int) - 1074) * 30103 / 100000
  if powerAtMost (guess + 1) units then guess + 1
  else if powerAtMost guess units then guess
  else guess - 1

/-- The greatest point of a decimal grid that is at most a count of units. -/
def gridFloor (units : Nat) (exponent : Int) : Decimal :=
  if 0 ≤ exponent then ⟨units / (one * 10 ^ exponent.toNat), exponent⟩
  else ⟨units * 10 ^ (-exponent).toNat / one, exponent⟩

/-- The neighbour of a number on a decimal grid that reads back as the number, if one does: of two the
nearer one, of two equally near the even one. -/
def gridHit? (units : Nat) (exponent : Int) : Option Decimal :=
  let below := gridFloor units exponent
  let above : Decimal := ⟨below.digits + 1, exponent⟩
  let c := cell units
  match c.holds below, c.holds above with
  | true, true =>
    let toBelow := below.distance (4 * units)
    let toAbove := above.distance (4 * units)
    if toBelow < toAbove || toBelow = toAbove && below.digits % 2 = 0 then some below
    else some above
  | true, false => some below
  | false, true => some above
  | false, false => none

/-- Tries grids of more and more digits, the coarsest first. -/
def searchGrid (units : Nat) (exponent : Int) : Nat → Decimal
  | 0 => gridFloor units exponent
  | more + 1 =>
    match gridHit? units exponent with
    | some d => d
    | none => searchGrid units (exponent - 1) more

/-- The fewest digits that read back as a positive finite number. -/
def shortest (units : Nat) : Decimal :=
  (searchGrid units (leadingExponent units) 17).stripZeros 20

/-- The digits of a decimal number with the point after `whole` of them. -/
def placePoint (digits : List Char) (whole : Nat) : List Char :=
  let left := digits.take whole ++ List.replicate (whole - digits.length) '0'
  let right := digits.drop whole
  left ++ '.' :: (if right.isEmpty then ['0'] else right)

/-- Positional notation from 10 ^ -4 up to 10 ^ 16, at least one digit on both sides of the point;
otherwise one digit before the point and an exponent of at least two digits. -/
def renderDecimal (d : Decimal) : List Char :=
  let digits := Nat.toDigits 10 d.digits
  let lead : Int := d.exponent + digits.length - 1
  if 0 ≤ lead && lead < 16 then placePoint digits (lead.toNat + 1)
  else if -4 ≤ lead && lead < 0 then
    '0' :: '.' :: (List.replicate (-lead - 1).toNat '0' ++ digits)
  else
    let mantissa := match digits with
      | [] => []
      | [single] => [single]
      | first :: rest => first :: '.' :: rest
    let size := Nat.toDigits 10 lead.natAbs
    mantissa ++ 'e' :: (if lead < 0 then '-' else '+') ::
      (List.replicate (2 - size.length) '0' ++ size)

/-- The text of a number in reports. -/
def render (x : Binary64) : String :=
  match x with
  | .nan => "nan"
  | .infinite negative => if negative then "-inf" else "inf"
  | .finite negative units =>
    let digits := if units = 0 then ['0', '.', '0'] else renderDecimal (shortest units)
    String.ofList (if negative then '-' :: digits else digits)

/-- A number as a percentage with one decimal place: the product with one hundred, rounded as a
number, then rounded to a tenth. -/
def percent (x : Binary64) : String :=
  match x.mul (ofNat 100) with
  | .nan => "nan%"
  | .infinite negative => if negative then "-inf%" else "inf%"
  | .finite negative units =>
    let tenths := roundQuotient (units * 10) one
    let digits := Nat.toDigits 10 (tenths / 10) ++ ['.', Nat.digitChar (tenths % 10), '%']
    String.ofList (if negative then '-' :: digits else digits)

end MoteTrial.Binary64
