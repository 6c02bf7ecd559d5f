import MoteTrial.LogFile.Record

/-! # Content of a log file

From the bytes of a file to its records. The bytes are UTF-8 and arrive in blocks; a line ends in a
line feed, a carriage return, or both. Lines are read as soon as they are complete, so a fault in a
line comes before a fault in the bytes of a later block.
-/

namespace MoteTrial.LogFile

open Text

/-- The number of bytes that are read at a time. -/
def blockSize : Nat := 8192

/-- Cuts bytes into blocks; the fuel bounds their number. -/
def blocks : Nat → List UInt8 → List (List UInt8)
  | _, [] => []
  | 0, bytes => [bytes]
  | fuel + 1, bytes => bytes.take blockSize :: blocks fuel (bytes.drop blockSize)

/-- The characters decoded before the first fault, and the fault. -/
structure Content where
  chars : List Char
  fault : Option Utf8.Fault

/-- Characters put before content. -/
def Content.after (chars : List Char) (c : Content) : Content := { c with chars := chars ++ c.chars }

/-- Decodes blocks, each together with the bytes of an incomplete character before it. A fault
hides the characters of its block. -/
def decodeBlocks (pending : List UInt8) : List (List UInt8) → Content
  | [] =>
    match pending with
    | [] => ⟨[], none⟩
    | first :: rest => ⟨[], some ⟨first, 0, rest.length + 1, .truncated⟩⟩
  | block :: later =>
    match Utf8.decode (pending ++ block) with
    | .text chars pending => (decodeBlocks pending later).after chars
    | .fault fault => ⟨[], some fault⟩

/-- Decodes the bytes of a file. -/
def decode (bytes : List UInt8) : Content :=
  decodeBlocks [] (blocks (bytes.length / blockSize + 1) bytes)

/-- Turns all line ends into line feeds. -/
def unifyLineEnds : List Char → List Char
  | [] => []
  | '\r' :: '\n' :: rest => '\n' :: unifyLineEnds rest
  | c :: rest => (if c = '\r' then '\n' else c) :: unifyLineEnds rest

/-- The line that characters start with, its line feed included, and the lines after it. -/
def splitLines : List Char → List Char × List (List Char)
  | [] => ([], [])
  | c :: cs =>
    let (line, rest) := splitLines cs
    if c = '\n' then (['\n'], if line.isEmpty then rest else line :: rest) else (c :: line, rest)

/-- The lines of characters, each but the last with its line feed. -/
def lines (chars : List Char) : List String :=
  let (line, rest) := splitLines chars
  (if line.isEmpty then rest else line :: rest).map String.ofList

/-- The characters up to the last line end, a carriage return at the very end not being taken for
one: a line feed may still follow it. -/
def completeLines (chars : List Char) : List Char :=
  let settled := if chars.getLast? = some '\r' then chars.dropLast else chars
  trimEnd (· != '\n') (unifyLineEnds settled)

/-- Reads the records of a file. -/
def ofBytes (bytes : List UInt8) : Except Failure (List Record) :=
  let content := decode bytes
  match content.fault with
  | none => readLines (lines (unifyLineEnds content.chars))
  | some fault => do
    let _ ← readLines (lines (completeLines content.chars))
    .error (.notUtf8 fault)

end MoteTrial.LogFile
