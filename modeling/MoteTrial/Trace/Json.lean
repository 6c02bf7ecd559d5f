import MoteTrial.Binary64.Shortest
import MoteTrial.Failure

/-! # Indented JSON

Values written as JSON with an indentation of two spaces, in ASCII: other characters become escapes
of four hexadecimal digits, two of them for a character beyond 16 bits. The output is a list of
pieces; an integer with too many digits is a piece that cannot be written.
-/

namespace MoteTrial

/-- A value to be written. -/
inductive JsonValue where
  | null
  | text (value : String)
  | integer (value : Int)
  | number (value : Binary64)
  | object (members : List (String × JsonValue))
  deriving Inhabited

namespace JsonValue

/-- An escape of four hexadecimal digits. -/
def escape (unit : Nat) : List Char := '\\' :: 'u' :: Text.hexDigits 4 unit

/-- One character of a text. -/
def escapeChar (c : Char) : List Char :=
  if c = '"' then ['\\', '"']
  else if c = '\\' then ['\\', '\\']
  else if c = '\n' then ['\\', 'n']
  else if c = '\r' then ['\\', 'r']
  else if c = '\t' then ['\\', 't']
  else if c = '\x08' then ['\\', 'b']
  else if c = '\x0c' then ['\\', 'f']
  else if 0x20 ≤ c.toNat && c.toNat ≤ 0x7E then [c]
  else if c.toNat < 0x10000 then escape c.toNat
  else
    let n := c.toNat - 0x10000
    escape (0xD800 + n / 0x400) ++ escape (0xDC00 + n % 0x400)

/-- A text between quotation marks. -/
def quote (text : String) : String :=
  String.ofList ('"' :: (text.toList.flatMap escapeChar ++ ['"']))

/-- The text of a number. -/
def renderNumber (x : Binary64) : String :=
  match x with
  | .nan => "NaN"
  | .infinite negative => if negative then "-Infinity" else "Infinity"
  | finite => finite.render

/-- The line break before a member at a depth. -/
def newline (depth : Nat) : String := String.ofList ('\n' :: List.replicate (2 * depth) ' ')

mutual

/-- The pieces of a value that stands at a depth. -/
def pieces (depth : Nat) : JsonValue → List (Except Failure String)
  | .null => [.ok "null"]
  | .text value => [.ok (quote value)]
  | .integer value => [writeInt value]
  | .number value => [.ok (renderNumber value)]
  | .object [] => [.ok "\x7b\x7d"]
  | .object (first :: rest) =>
    [.ok ("\x7b" ++ newline (depth + 1) ++ quote first.1 ++ ": ")] ++
      pieces (depth + 1) first.2 ++ memberPieces (depth + 1) rest ++
      [.ok (newline depth ++ "\x7d")]

/-- The pieces of the members after the first one. -/
def memberPieces (depth : Nat) : List (String × JsonValue) → List (Except Failure String)
  | [] => []
  | member :: rest =>
    [.ok ("," ++ newline depth ++ quote member.1 ++ ": ")] ++ pieces depth member.2 ++
      memberPieces depth rest

end

/-- Joins pieces up to the first one that cannot be written. -/
def join : List (Except Failure String) → String × Option Failure
  | [] => ("", none)
  | .error f :: _ => ("", some f)
  | .ok piece :: rest =>
    let (later, stop) := join rest
    (piece ++ later, stop)

/-- The text of a value, as far as it can be written, and what stopped it. -/
def write (value : JsonValue) : String × Option Failure := join (pieces 0 value)

end JsonValue

end MoteTrial
