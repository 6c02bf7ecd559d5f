/-! # Blank characters

The characters that count as white space in log lines and numerals, and the two ways of using them:
`trimWhere` removes characters of a class at both ends of a text, `words` takes blanks as separators.
The set is the Unicode property `White_Space` together with the four information separators U+001C to U+001F.
-/

namespace MoteTrial.Text

/-- Blank characters separate words and surround numerals. -/
def isBlank (c : Char) : Bool :=
  let n := c.toNat
  (0x09 ≤ n && n ≤ 0x0D) || (0x1C ≤ n && n ≤ 0x20) || n == 0x85 || n == 0xA0 || n == 0x1680 ||
    (0x2000 ≤ n && n ≤ 0x200A) || n == 0x2028 || n == 0x2029 || n == 0x202F || n == 0x205F ||
    n == 0x3000

/-- The ASCII blanks, the only ones that may surround a numeral in its ASCII form. -/
def isAsciiBlank (c : Char) : Bool :=
  let n := c.toNat
  (0x09 ≤ n && n ≤ 0x0D) || n == 0x20

/-- The part of a text between its first and its last character outside a class. -/
def trimWhere (p : Char → Bool) (cs : List Char) : List Char :=
  ((cs.dropWhile p).reverse.dropWhile p).reverse

/-- A text without the characters of a class at its end. -/
def trimEnd (p : Char → Bool) (cs : List Char) : List Char := (cs.reverse.dropWhile p).reverse

/-- The word that a text starts with, empty where it starts with a blank, and the words after it. -/
def splitWord : List Char → List Char × List (List Char)
  | [] => ([], [])
  | c :: cs =>
    let (word, rest) := splitWord cs
    if isBlank c then ([], if word.isEmpty then rest else word :: rest) else (c :: word, rest)

/-- The longest blank-free pieces of a text, in order. -/
def words (cs : List Char) : List (List Char) :=
  let (word, rest) := splitWord cs
  if word.isEmpty then rest else word :: rest

end MoteTrial.Text
