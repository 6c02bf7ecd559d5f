import MoteTrial.Text.Printable

/-! # Quoted texts

A text between quotation marks, as diagnostics show it: `quoted` chooses the mark that needs no
escape, writes a backslash before the mark and before a backslash, and writes every character
without a visible shape as a numeric escape of two, four or eight hexadecimal digits.
-/

namespace MoteTrial.Text

/-- The last `width` hexadecimal digits of a number, lower case. -/
def hexDigits : Nat → Nat → List Char
  | 0, _ => []
  | width + 1, n => hexDigits width (n / 16) ++ [Nat.digitChar (n % 16)]

/-- The escape of a character without a visible shape. -/
def numericEscape (c : Char) : List Char :=
  let n := c.toNat
  if n < 0x100 then '\\' :: 'x' :: hexDigits 2 n
  else if n < 0x10000 then '\\' :: 'u' :: hexDigits 4 n
  else '\\' :: 'U' :: hexDigits 8 n

/-- One character inside quotation marks. -/
def escapeChar (mark : Char) (c : Char) : List Char :=
  if c = mark || c = '\\' then ['\\', c]
  else if c = '\n' then ['\\', 'n']
  else if c = '\r' then ['\\', 'r']
  else if c = '\t' then ['\\', 't']
  else if isPrintable c then [c]
  else numericEscape c

/-- The apostrophe is the mark, unless the text has one and has no double quote. -/
def quotationMark (cs : List Char) : Char :=
  if cs.contains '\'' && !cs.contains '"' then '"' else '\''

/-- A text between quotation marks. -/
def quotedChars (cs : List Char) : List Char :=
  let mark := quotationMark cs
  mark :: (cs.flatMap (escapeChar mark) ++ [mark])

/-- A text between quotation marks. -/
def quoted (text : String) : String := String.ofList (quotedChars text.toList)

end MoteTrial.Text
