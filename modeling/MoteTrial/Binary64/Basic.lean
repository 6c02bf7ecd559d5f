/-! # Double-precision numbers

A number of the binary64 format as an exact value: finite ones are whole multiples of the least
positive one, 2 ^ -1074, so that comparison is comparison of integers and every operation is an
exact operation followed by one rounding. `nearest` is that rounding: to 53 significant bits, a tie
going to the even neighbour.
-/

-- Powers and sums are those of the core library, also where a module imports other instances.
attribute [instance (high), default_instance (high + 1)] instPowNat
attribute [instance (high)] Zero.ofOfNat0

namespace MoteTrial

/-- A binary64 number; a finite one is counted in units of 2 ^ -1074. -/
inductive Binary64 where
  | finite (negative : Bool) (units : Nat)
  | infinite (negative : Bool)
  | nan
  deriving DecidableEq, Repr, Inhabited

/-- The whole number nearest to a quotient, a tie going to the even one. -/
def roundQuotient (num den : Nat) : Nat :=
  let quotient := num / den
  let twice := 2 * (num % den)
  if twice < den then quotient
  else if den < twice then quotient + 1
  else if quotient % 2 = 0 then quotient else quotient + 1

namespace Binary64

/-- The units in one. -/
def one : Nat := 2 ^ 1074

theorem one_pos : 0 < one := by
  rw [one]
  exact Nat.two_pow_pos 1074

/-- The least number of units that is too large for a finite number. -/
def overflow : Nat := 2 ^ 2098

/-- The number of trailing bits that a value of so many units cannot keep. -/
def surplusBits (units : Nat) : Nat := units.log2 - 52

/-- The multiple of a unit nearest to a quotient that keeps 53 significant bits. -/
def nearest (num den : Nat) : Nat :=
  let step := 2 ^ surplusBits (num / den)
  roundQuotient num (den * step) * step

/-- The number nearest to a quotient of units. -/
def ofQuotient (negative : Bool) (num den : Nat) : Binary64 :=
  let units := nearest num den
  if units < overflow then .finite negative units else .infinite negative

/-- Zero, without a sign. -/
def zero : Binary64 := .finite false 0

instance : Zero Binary64 := ⟨zero⟩

/-- The number nearest to a natural number. -/
def ofNat (n : Nat) : Binary64 := ofQuotient false (n * one) 1

/-- The number nearest to an integer, infinite where that is out of range. -/
def ofInt (n : Int) : Binary64 := ofQuotient (n < 0) (n.natAbs * one) 1

/-- The number nearest to a fraction with the given power of two below the line. -/
def ofScaled (n : Nat) (scale : Nat) : Binary64 := ofQuotient false (n * one) (2 ^ scale)

/-- Whether a number is neither infinite nor undefined. -/
def isFinite : Binary64 → Bool
  | .finite _ _ => true
  | _ => false

/-- The signed count of units of a finite number, and zero for the others. -/
def toUnits : Binary64 → Int
  | .finite true units => -(units : Int)
  | .finite false units => units
  | _ => 0

/-- A finite number from a signed count of units; a zero takes the given sign. -/
def ofUnits (zeroSign : Bool) (units : Int) : Binary64 :=
  if units = 0 then .finite zeroSign 0 else ofQuotient (units < 0) units.natAbs 1

/-- The number with the opposite sign. -/
def neg : Binary64 → Binary64
  | .finite negative units => .finite (!negative) units
  | .infinite negative => .infinite (!negative)
  | .nan => .nan

/-- The rounded sum. -/
def add : Binary64 → Binary64 → Binary64
  | .finite s a, .finite t b =>
    ofUnits (s && t) (toUnits (.finite s a) + toUnits (.finite t b))
  | .infinite s, .infinite t => if s = t then .infinite s else .nan
  | .nan, _ => .nan
  | _, .nan => .nan
  | .infinite s, _ => .infinite s
  | _, .infinite t => .infinite t

/-- The rounded difference. -/
def sub (a b : Binary64) : Binary64 := add a b.neg

/-- The rounded product. -/
def mul : Binary64 → Binary64 → Binary64
  | .finite s a, .finite t b => ofQuotient (s != t) (a * b) one
  | .finite s a, .infinite t => if a = 0 then .nan else .infinite (s != t)
  | .infinite s, .finite t b => if b = 0 then .nan else .infinite (s != t)
  | .infinite s, .infinite t => .infinite (s != t)
  | _, _ => .nan

/-- The rounded quotient by a positive natural number. -/
def divNat (a : Binary64) (n : Nat) : Binary64 :=
  match a with
  | .finite s units => ofQuotient s units n
  | other => other

/-- The rounded quotient of two integers, the divisor not being zero. -/
def ofRatio (num den : Int) : Binary64 :=
  ofQuotient ((num < 0) != (den < 0) && num != 0) (num.natAbs * one) den.natAbs

/-- The order of numbers; an undefined number is below nothing. -/
def le : Binary64 → Binary64 → Bool
  | .nan, _ => false
  | _, .nan => false
  | .infinite s, .infinite t => s || !t
  | .infinite s, .finite _ _ => s
  | .finite _ _, .infinite t => !t
  | a@(.finite _ _), b@(.finite _ _) => a.toUnits ≤ b.toUnits

/-- The strict order of numbers; an undefined number is below nothing. -/
def lt : Binary64 → Binary64 → Bool
  | .nan, _ => false
  | _, .nan => false
  | .infinite s, .infinite t => s && !t
  | .infinite s, .finite _ _ => s
  | .finite _ _, .infinite t => !t
  | a@(.finite _ _), b@(.finite _ _) => a.toUnits < b.toUnits

/-- The integer nearest to a finite number, a tie going to the even one. -/
def round? : Binary64 → Option Int
  | .finite negative units =>
    let n : Int := roundQuotient units one
    some (if negative then -n else n)
  | _ => none

/-- The interchange format: sign, eleven bits of exponent, fifty-two bits of fraction. -/
def toBits : Binary64 → Nat
  | .finite negative units =>
    let shift := surplusBits units
    (if negative then 2 ^ 63 else 0) + shift * 2 ^ 52 + units / 2 ^ shift
  | .infinite negative => (if negative then 2 ^ 63 else 0) + 2047 * 2 ^ 52
  | .nan => 4095 * 2 ^ 51

end Binary64

end MoteTrial
