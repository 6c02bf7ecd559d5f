import MoteTrial.Binary64.Shortest
import MoteTrial.Numeral
import MoteTrial.Text.Quoted
import MoteTrial.Text.Utf8

/-! # Failures

Everything that can go wrong in a run, one constructor for each cause. `Failure.name` is the kind
that reports show, `Failure.message` the text. A message that would have to show an integer too
long to be written cannot be composed; `Failure.settled` is the failure that arises in its place.
-/

namespace MoteTrial

open Text

/-- What the file store refuses. -/
inductive DiskFault where
  | missing
  | occupied
  | notDirectory
  | isDirectory
  | full
  | nameTooLong
  deriving DecidableEq, Repr

/-- The options of a run that may be left blank and are missed when they are used. -/
inductive Blank where
  | script
  | seed
  | ratio
  | limit
  | deadline
  | folder
  deriving DecidableEq, Repr

/-- A cause of failure. -/
inductive Failure where
  /-- An integer has too many digits to be written. -/
  | unwritableInteger
  /-- A numeral has too many digits to be read. -/
  | longNumeral (digits : Nat)
  /-- A text is not an integer. -/
  | notInteger (text : String)
  /-- A text is not a decimal fraction. -/
  | notNumber (text : String)
  /-- The undefined number has no nearest integer. -/
  | undefinedToInteger
  /-- An infinity has no nearest integer. -/
  | infiniteToInteger
  /-- An integer exceeds the double-precision range. -/
  | beyondDouble
  /-- An integer exceeds the signed 64-bit range. -/
  | beyondWord
  /-- A quotient has the divisor zero. -/
  | zeroDivision
  /-- A clock value has more than three fields. -/
  | clockFields (text : String)
  /-- A line of a log file has not the form of one. -/
  | lineShape (number : Nat) (line : String)
  /-- The time of a line of a log file cannot be read. -/
  | lineTime (number : Nat) (line : String) (cause : Failure)
  /-- A file is not UTF-8. -/
  | notUtf8 (fault : Utf8.Fault)
  /-- A reception line has no second word. -/
  | missingCounter (msg : String)
  /-- The second word of a reception line is no integer. -/
  | badCounter (token msg : String)
  /-- A keyword needs the two end points of the link, and one has not started. -/
  | unboundEndpoint (keyword : String) (first third : Option Int)
  /-- A script without a host wants to write to its log. -/
  | noLog
  /-- A script may register one deadline only. -/
  | secondDeadline
  /-- The identifier of a mote is taken. -/
  | moteExists (id : Int)
  /-- An event may not be due before now. -/
  | pastDelay (delay : Int)
  /-- A reception ratio lies outside the unit interval. -/
  | ratioRange (ratio : Binary64)
  /-- The radio medium takes no negative seed. -/
  | negativeSeed
  /-- The seed of a run lies outside 32 bits. -/
  | seedRange
  /-- There is no delay from zero to a negative bound. -/
  | emptyRange (bound : Int)
  /-- The file store refuses a path. -/
  | disk (fault : DiskFault) (path : String)
  /-- A path holds the character zero. -/
  | zeroInPath
  /-- An option that is needed was left blank. -/
  | blank (option : Blank)
  /-- A failure raised by a user's own code. -/
  | raised (name text : String)
  deriving DecidableEq, Repr

/-- The number by which the system knows a refusal. -/
def DiskFault.code : DiskFault → Nat
  | .missing => 2
  | .occupied => 17
  | .notDirectory => 20
  | .isDirectory => 21
  | .full => 28
  | .nameTooLong => 36

/-- The kind of a refusal. -/
def DiskFault.name : DiskFault → String
  | .missing => "FileNotFoundError"
  | .occupied => "FileExistsError"
  | .notDirectory => "NotADirectoryError"
  | .isDirectory => "IsADirectoryError"
  | .full | .nameTooLong => "OSError"

/-- The wording of a refusal. -/
def DiskFault.reason : DiskFault → String
  | .missing => "No such file or directory"
  | .occupied => "File exists"
  | .notDirectory => "Not a directory"
  | .isDirectory => "Is a directory"
  | .full => "No space left on device"
  | .nameTooLong => "File name too long"

/-- The wording of a fault in UTF-8. -/
def Text.Utf8.Cause.reason : Text.Utf8.Cause → String
  | .start => "invalid start byte"
  | .continuation => "invalid continuation byte"
  | .truncated => "unexpected end of data"

/-- Where a fault in UTF-8 stands: one byte is shown, of several only their range. -/
def Text.Utf8.Fault.place (f : Text.Utf8.Fault) : String :=
  if f.length = 1 then
    "byte 0x" ++ String.ofList (hexDigits 2 f.byte.toNat) ++ " in position " ++ toString f.position
  else
    "bytes in position " ++ toString f.position ++ "-" ++ toString (f.position + f.length - 1)

/-- What is said when an option that was left blank is used. -/
def Blank.message : Blank → String
  | .script => "unhashable type: 'list'"
  | .seed => "The only supported seed types are: None,\nint, float, str, bytes, and bytearray."
  | .ratio => "float() argument must be a string or a real number, not 'list'"
  | .limit => "unsupported operand type(s) for //: 'list' and 'int'"
  | .deadline => "'<' not supported between instances of 'list' and 'int'"
  | .folder => "expected str, bytes or os.PathLike object, not list"

namespace Failure

/-- How a mote is named in messages. -/
def moteName : Option Int → String
  | none => "None"
  | some id => "Mote(" ++ Numeral.decimal id ++ ")"

/-- The kind of a failure. -/
def name : Failure → String
  | .infiniteToInteger | .beyondDouble | .beyondWord => "OverflowError"
  | .zeroDivision => "ZeroDivisionError"
  | .lineShape _ _ | .lineTime _ _ _ => "LogFormatError"
  | .notUtf8 _ => "UnicodeDecodeError"
  | .missingCounter _ | .badCounter _ _ => "MalformedMessageError"
  | .unboundEndpoint _ _ _ => "UnboundEndpointError"
  | .noLog => "AttributeError"
  | .secondDeadline => "RuntimeError"
  | .disk fault _ => fault.name
  | .blank _ => "TypeError"
  | .raised name _ => name
  | _ => "ValueError"

/-- The text of a failure. -/
def message : Failure → String
  | .unwritableInteger =>
    "Exceeds the limit (4300 digits) for integer string conversion; use " ++
      "sys.set_int_max_str_digits() to increase the limit"
  | .longNumeral digits =>
    "Exceeds the limit (4300 digits) for integer string conversion: value has " ++
      toString digits ++ " digits; use sys.set_int_max_str_digits() to increase the limit"
  | .notInteger text =>
    "invalid literal for int() with base 10: " ++
      String.ofList ((quotedChars text.toList).take 200)
  | .notNumber text => "could not convert string to float: " ++ quoted text
  | .undefinedToInteger => "cannot convert float NaN to integer"
  | .infiniteToInteger => "cannot convert float infinity to integer"
  | .beyondDouble => "int too large to convert to float"
  | .beyondWord => "Python int too large to convert to C long"
  | .zeroDivision => "division by zero"
  | .clockFields text => "too many fields in " ++ quoted text
  | .lineShape number line =>
    "line " ++ toString number ++ ": expected '<time>\\tID:<n>\\t<message>': " ++ quoted line
  | .lineTime number line cause =>
    "line " ++ toString number ++ ": bad timestamp (" ++ cause.message ++ "): " ++ quoted line
  | .notUtf8 fault => "'utf-8' codec can't decode " ++ fault.place ++ ": " ++ fault.cause.reason
  | .missingCounter msg => "missing counter in " ++ quoted msg
  | .badCounter token msg => "bad counter " ++ quoted token ++ " in " ++ quoted msg
  | .unboundEndpoint keyword first third =>
    "'" ++ keyword ++ "' before motes 1 and 3 started (mote1=" ++ moteName first ++ ", mote3=" ++
      moteName third ++ ")"
  | .noLog => "'NoneType' object has no attribute 'log'"
  | .secondDeadline => "script registered more than one timeout"
  | .moteExists id => "mote " ++ Numeral.decimal id ++ " already exists"
  | .pastDelay delay => "cannot schedule " ++ Numeral.decimal delay ++ "ms in the past"
  | .ratioRange ratio => "PRR must be within [0, 1], got " ++ ratio.render
  | .negativeSeed => "expected non-negative integer"
  | .seedRange => "Seed must be between 0 and 2**32 - 1"
  | .emptyRange bound =>
    "empty range for randrange() (0, " ++ Numeral.decimal (bound + 1) ++ ", " ++
      Numeral.decimal (bound + 1) ++ ")"
  | .disk fault path =>
    "[Errno " ++ toString fault.code ++ "] " ++ fault.reason ++ ": " ++ quoted path
  | .zeroInPath => "embedded null byte"
  | .blank option => option.message
  | .raised name text => if name = "KeyError" then quoted text else text

/-- The integers that the message of a failure shows. -/
def shownIntegers : Failure → List Int
  | .unboundEndpoint _ first third => first.toList ++ third.toList
  | .moteExists id => [id]
  | .pastDelay delay => [delay]
  | .emptyRange bound => [bound + 1]
  | _ => []

/-- The failure itself, if its message can be written. -/
def settled (f : Failure) : Failure :=
  if f.shownIntegers.all Numeral.isWritable then f else .unwritableInteger

/-- Whether a failure comes from a number that is out of range, rather than from a text that cannot
be read. -/
def isOverflow : Failure → Bool
  | .infiniteToInteger | .beyondDouble => true
  | _ => false

/-- The number and the text of the log line that a failure points at. -/
def logLine? : Failure → Option (Nat × String)
  | .lineShape number line | .lineTime number line _ => some (number, line)
  | _ => none

end Failure

/-- The text of an integer, which must not be too long. -/
def writeInt (n : Int) : Except Failure String :=
  if Numeral.isWritable n then .ok (Numeral.decimal n) else .error .unwritableInteger

/-- Reads an integer. -/
def readInt (text : String) : Except Failure Int :=
  match Numeral.readInt text.toList with
  | .ok n => .ok n
  | .error (.tooLong digits) => .error (.longNumeral digits)
  | .error .malformed => .error (.notInteger text)

/-- Reads a decimal fraction. -/
def readFloat (text : String) : Except Failure Binary64 :=
  match Numeral.readFloat? text.toList with
  | some x => .ok x
  | none => .error (.notNumber text)

/-- The number of an integer, which must be in range. -/
def toDouble (n : Int) : Except Failure Binary64 :=
  let x := Binary64.ofInt n
  if x.isFinite then .ok x else .error .beyondDouble

/-- A number as a caller gives it, or leaves it blank. -/
inductive Amount where
  | whole (n : Int)
  | double (x : Binary64)
  | blank
  deriving DecidableEq, Repr, Inhabited

/-- The value of a given number. -/
def Amount.value : Amount → Except Failure Binary64
  | .whole n => toDouble n
  | .double x => .ok x
  | .blank => .error (.blank .ratio)

end MoteTrial
