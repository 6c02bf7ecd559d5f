import MoteTrial.LogFile.Clock

/-! # Lines of a log file

A line holds the time of an event, the mote after the mark `ID:`, and the message, with blanks
between them. `Record.write` writes a record with tabs; `readLines` reads all lines of a file,
passing over blank ones, and numbers them from one.
-/

namespace MoteTrial.LogFile

open Text

/-- A line that a mote logged in a recorded run. -/
structure Record where
  time : Int
  mote : Int
  msg : String
  deriving DecidableEq, Repr, Inhabited

/-- A record as a line of a log file, without a line end. -/
def Record.write (r : Record) : String :=
  Numeral.decimal r.time ++ "\tID:" ++ Numeral.decimal r.mote ++ "\t" ++ r.msg

/-- Whether a character may stand in a time. -/
def isTimeChar (c : Char) : Bool := (asciiDigitValue? c).isSome || c == ':' || c == '.'

/-- Takes the mark before the number of a mote off a text. -/
def dropMark? : List Char → Option (List Char)
  | 'I' :: 'D' :: ':' :: rest => some rest
  | _ => none

/-- The three fields of a line. -/
structure Fields where
  time : List Char
  mote : List Char
  msg : List Char
  deriving DecidableEq, Repr

/-- Splits a line into its fields: blanks, the time, blanks, the mark with the number of the mote,
one blank, the message. The message may not contain a line feed. -/
def splitLine? (line : List Char) : Option Fields := do
  let body := line.dropWhile isBlank
  let time := body.takeWhile isTimeChar
  let afterTime := body.dropWhile isTimeChar
  let afterBlanks := afterTime.dropWhile isBlank
  if time.isEmpty || !(afterTime.head?.any isBlank) then none
  let afterMark ← dropMark? afterBlanks
  let mote := afterMark.takeWhile isDecimalDigit
  match afterMark.dropWhile isDecimalDigit with
  | [] => none
  | separator :: msg =>
    if mote.isEmpty || !isBlank separator || msg.contains '\n' then none
    else some ⟨time, mote, msg⟩

/-- The time of a numbered line. A time that cannot be read is a fault of the line; one that is out
of range is not. -/
def lineTime (number : Nat) (line : String) (time : List Char) : Except Failure Int :=
  match readTime (String.ofList time) with
  | .ok ms => .ok ms
  | .error f => .error (if f.isOverflow then f else .lineTime number line f)

/-- A line without the characters of line ends after it. -/
def dropLineEnd (raw : List Char) : List Char := trimEnd (fun c => c == '\r' || c == '\n') raw

/-- Whether a line holds blanks alone. -/
def isBlankLine (line : List Char) : Bool := line.all isBlank

/-- Reads a numbered line that is not blank. -/
def readLine (number : Nat) (line : List Char) : Except Failure Record :=
  match splitLine? line with
  | none => .error (.lineShape number (String.ofList line))
  | some fields => do
    let time ← lineTime number (String.ofList line) fields.time
    let mote ← readInt (String.ofList fields.mote)
    return ⟨time, mote, String.ofList fields.msg⟩

/-- Reads lines of which the first has the given number, putting their records after others. -/
def readLinesFrom : Nat → Array Record → List String → Except Failure (Array Record)
  | _, records, [] => .ok records
  | number, records, raw :: rest =>
    let line := dropLineEnd raw.toList
    if isBlankLine line then readLinesFrom (number + 1) records rest
    else match readLine number line with
      | .ok record => readLinesFrom (number + 1) (records.push record) rest
      | .error f => .error f

/-- Reads the lines of a log file. -/
def readLines (lines : List String) : Except Failure (List Record) :=
  return (← readLinesFrom 1 #[] lines).toList

end MoteTrial.LogFile
