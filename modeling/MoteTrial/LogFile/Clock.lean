import MoteTrial.Failure

/-! # Clock values

The times in a log file: a whole number of milliseconds, or a clock value of minutes and seconds
with hours before them if need be. A clock value is added up in double precision and rounded to the
nearest millisecond.
-/

namespace MoteTrial.LogFile

/-- The fields of a text between colons. -/
def splitColon : List Char → List Char × List (List Char)
  | [] => ([], [])
  | c :: cs =>
    let (field, rest) := splitColon cs
    if c = ':' then ([], field :: rest) else (c :: field, rest)

/-- The integer nearest to a number, which must be finite. -/
def toNearest (x : Binary64) : Except Failure Int :=
  match x.round? with
  | some n => .ok n
  | none => .error (if x = .nan then .undefinedToInteger else .infiniteToInteger)

/-- The milliseconds of a clock value. -/
def clockTime (hours minutes : Int) (seconds : Binary64) : Except Failure Int := do
  let whole ← toDouble ((hours * 60 + minutes) * 60)
  toNearest ((whole.add seconds).mul (Binary64.ofNat 1000))

/-- Reads a time. Of a clock value the seconds are read first, then the minutes, then the hours. -/
def readTime (text : String) : Except Failure Int := do
  match splitColon text.toList with
  | (_, []) => readInt text
  | (minutes, [seconds]) =>
    let seconds ← readFloat (String.ofList seconds)
    let minutes ← readInt (String.ofList minutes)
    clockTime 0 minutes seconds
  | (hours, [minutes, seconds]) =>
    let seconds ← readFloat (String.ofList seconds)
    let minutes ← readInt (String.ofList minutes)
    let hours ← readInt (String.ofList hours)
    clockTime hours minutes seconds
  | _ => .error (.clockFields text)

end MoteTrial.LogFile
