import ShellBridge.Text.Utf8

/-!
Lines of an input that arrives in pieces.

A line ends with a line feed, which a carriage return may precede.  What is left at the end of the
input is a line too, unless it is empty.  A line that is not UTF-8 ends the input.
-/

namespace ShellBridge.Text

/-- The pieces in front of line feeds, and what is left behind the last one. -/
def splitLines : Bytes → List Bytes × Bytes
  | [] => ([], [])
  | b :: bytes =>
      let (lines, rest) := splitLines bytes
      if b = 0x0A then ([] :: lines, rest)
      else
        match lines with
        | [] => ([], b :: rest)
        | line :: lines => ((b :: line) :: lines, rest)

def dropCarriageReturn (line : Bytes) : Bytes :=
  if line.getLast? = some 0x0D then line.dropLast else line

/-- The texts of lines up to the first one that is not UTF-8, and whether all of them are. -/
def readLines : List Bytes → List String × Bool
  | [] => ([], true)
  | line :: lines =>
      match Utf8.decode? line with
      | none => ([], false)
      | some text =>
          let (texts, sound) := readLines lines
          (text :: texts, sound)

structure LineReader where
  /-- What arrived behind the last line feed. -/
  rest : Bytes
  /-- Whether a line was not UTF-8. -/
  ended : Bool
  deriving DecidableEq

namespace LineReader

def start : LineReader := ⟨[], false⟩

/-- Takes a piece of the input; gives the lines that it completes. -/
def take (reader : LineReader) (piece : Bytes) : LineReader × List String :=
  if reader.ended then (reader, [])
  else
    let (lines, rest) := splitLines (reader.rest ++ piece)
    let (texts, sound) := readLines (lines.map dropCarriageReturn)
    (⟨rest, !sound⟩, texts)

/-- The lines that the end of the input completes. -/
def finish (reader : LineReader) : List String :=
  if reader.ended || reader.rest.isEmpty then []
  else (Utf8.decode? reader.rest).toList

end LineReader

/-- The lines of a whole input. -/
def lines (input : Bytes) : List String :=
  let (reader, texts) := LineReader.start.take input
  texts ++ reader.finish

end ShellBridge.Text
