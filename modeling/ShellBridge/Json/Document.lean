import ShellBridge.Json.Numeral

/-!
Reading whole documents.

`room` is the number of lists and objects that may still be opened inside each other.  Lists and
objects are read item by item; the budget of these loops is the length of the text, of which every
item takes at least one byte.
-/

namespace ShellBridge.Json

/-- A reader of values of a type, given the room for nested lists and objects. -/
abbrev Reader (α : Type) := (room : Nat) → Read α

open Scan

/-- The items of a list up to and with its closing bracket; the opening one was read. -/
def readItems {α : Type} (item : Read α) : (budget : Nat) → (first : Bool) → Read (List α)
  | 0, _, input => .error (.before .endInList input)
  | budget + 1, first, input => do
      let (more, rest) ← nextItem first input
      if more then
        let (x, rest) ← item rest
        let (xs, rest) ← readItems item budget false rest
        .ok (x :: xs, rest)
      else
        .ok ([], rest.drop 1)

/-- The members of an object up to and with its closing bracket; the opening one was read. -/
def readMembers {α : Type} (value : Read α) :
    (budget : Nat) → (first : Bool) → Read (List (String × α))
  | 0, _, input => .error (.before .endInObject input)
  | budget + 1, first, input => do
      let (key?, rest) ← nextKey first input
      match key? with
      | none => .ok ([], rest.drop 1)
      | some key =>
          let rest ← colon rest
          let (x, rest) ← value rest
          let (xs, rest) ← readMembers value budget false rest
          .ok ((key, x) :: xs, rest)

/-- Enough budget for the items or members of a text. -/
def budgetFor (input : Bytes) : Nat :=
  input.length + 1

/-- A document whose lists and objects are read by the given reader of nested documents; without
one there is no room for them. -/
def readWith (nested : Option (Read Json)) (input : Bytes) : Except Fault (Json × Bytes) :=
  match skipBlanks input with
  | [] => .error (.before .endInValue [])
  | b :: rest =>
      if b = 0x6E then (word ull rest).map (.null, ·)
      else if b = 0x74 then (word rue rest).map (.bool true, ·)
      else if b = 0x66 then (word alse rest).map (.bool false, ·)
      else if b = 0x2D || isDigit b then
        (Numeral.read (b :: rest)).map fun (n, rest) => (.number n, rest)
      else if b = 0x22 then (Scan.string rest).map fun (s, rest) => (.string s, rest)
      else if b = 0x5B then
        match nested with
        | none => .error (.behindNext .recursionLimit (b :: rest))
        | some item =>
            (readItems item (budgetFor rest) true rest).map fun (items, rest) => (.array items, rest)
      else if b = 0x7B then
        match nested with
        | none => .error (.behindNext .recursionLimit (b :: rest))
        | some value =>
            (readMembers value (budgetFor rest) true rest).map fun (members, rest) =>
              (.object members, rest)
      else .error (.behindNext .expectedValue (b :: rest))

/-- A document as it stands in the text. -/
def document : Reader Json
  | 0 => readWith none
  | room + 1 => readWith (some (document room))

/-- An open list or object that is passed over. -/
inductive Bracket where
  | list
  | object
  deriving DecidableEq

/-- The key and colon in front of a member's value. -/
def skipKey (input : Bytes) : Except Fault Bytes :=
  match skipBlanks input with
  | [] => .error (.before .endInObject [])
  | b :: rest =>
      if b = 0x22 then do
        let rest ← skipString rest
        colon rest
      else .error (.behindNext .keyMustBeString (b :: rest))

namespace Bracket

def close : Bracket → UInt8
  | list => 0x5D
  | object => 0x7D

def atEnd : Bracket → Cause
  | list => .endInList
  | object => .endInObject

def unseparated : Bracket → Cause
  | list => .expectedListEnd
  | object => .expectedObjectEnd

end Bracket

/-- Goes on behind a value (`separated` asks for a comma) or behind an opening bracket, to the next
value inside the open brackets.  No bracket is left open when there is none. -/
def skipToValue (separated : Bool) :
    List Bracket → Bytes → Except Fault (List Bracket × Bytes)
  | [], input => .ok ([], input)
  | bracket :: outer, input =>
      match skipBlanks input with
      | [] => .error (.before bracket.atEnd [])
      | b :: rest =>
          if b = bracket.close then skipToValue true outer rest
          else if separated && b ≠ 0x2C then
            .error (.behindNext bracket.unseparated (b :: rest))
          else
            let rest := if separated then rest else b :: rest
            match bracket with
            | .list => .ok (bracket :: outer, rest)
            | .object => (skipKey rest).map (bracket :: outer, ·)

/-- Passes over a value inside the open brackets, and over what follows up to their end. -/
def skipFrom : (budget : Nat) → List Bracket → Bytes → Except Fault Bytes
  | 0, _, input => .error (.before .endInValue input)
  | budget + 1, outer, input =>
      match skipBlanks input with
      | [] => .error (.before .endInValue [])
      | b :: rest => do
          let (separated, outer, rest) ←
            if b = 0x6E then (word ull rest).map (true, outer, ·)
            else if b = 0x74 then (word rue rest).map (true, outer, ·)
            else if b = 0x66 then (word alse rest).map (true, outer, ·)
            else if b = 0x2D || isDigit b then (Numeral.skip (b :: rest)).map (true, outer, ·)
            else if b = 0x22 then (skipString rest).map (true, outer, ·)
            else if b = 0x5B then .ok (false, Bracket.list :: outer, rest)
            else if b = 0x7B then .ok (false, Bracket.object :: outer, rest)
            else .error (.behindNext .expectedValue (b :: rest))
          let (outer, rest) ← skipToValue separated outer rest
          if outer.isEmpty then .ok rest else skipFrom budget outer rest

/-- Passes over a value of which only the grammar is checked; it may nest as deep as it likes. -/
def skip (input : Bytes) : Except Fault Bytes :=
  skipFrom (budgetFor input) [] input

/-- The fault of a value that is not of the expected type: scalars are read, a list or an object
is not entered. -/
def wrongType (expected : String) (input : Bytes) : Fault :=
  let report (found : Found) (rest : Bytes) : Fault := .before (.invalidType found expected) rest
  match skipBlanks input with
  | [] => .before .endInValue []
  | b :: rest =>
      if b = 0x5B then report .sequence (b :: rest)
      else if b = 0x7B then report .map (b :: rest)
      else
        match readWith none (b :: rest) with
        | .error fault => fault
        | .ok (.null, rest) => report .null rest
        | .ok (.bool b, rest) => report (.boolean b) rest
        | .ok (.number n, rest) => report (.number n) rest
        | .ok (.string s, rest) => report (.string s) rest
        | .ok (.array _, rest) => report .sequence rest
        | .ok (.object _, rest) => report .map rest

/-- What a document is, for a message. -/
def found : Json → Found
  | .null => .null
  | .bool b => .boolean b
  | .number n => .number n
  | .string s => .string s
  | .array _ => .sequence
  | .object _ => .map

/-- The number of lists and objects that may be open at once. -/
def depthLimit : Nat := 127

/-- Refuses anything but blanks behind the value of a text. -/
def endOfText (text rest : Bytes) : Option Refusal :=
  match skipBlanks rest with
  | [] => none
  | b :: rest => some ((Fault.behindNext .trailingCharacters (b :: rest)).inText text)

/-- A whole text: one value, and nothing but blanks behind it. -/
def whole {α : Type} (reader : Reader α) (text : Bytes) : Except Refusal α :=
  match reader depthLimit text with
  | .error fault => .error (fault.inText text)
  | .ok (x, rest) =>
      match endOfText text rest with
      | some refusal => .error refusal
      | none => .ok x

/-- A document in canonical form. -/
def Value.reader : Reader Value := fun room input => do
  let (j, rest) ← document room input
  .ok (.ofJson j, rest)

def Value.parse (text : Bytes) : Except Refusal Value :=
  whole Value.reader text

end ShellBridge.Json
