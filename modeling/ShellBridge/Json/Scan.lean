import ShellBridge.Json.Fault

/-!
The smallest steps of reading: blanks, words, strings, and the punctuation of lists and objects.

Every step takes the bytes that are left and returns what it read together with the rest.
-/

namespace ShellBridge.Json

/-- A reading step. -/
abbrev Read (α : Type) := Bytes → Except Fault (α × Bytes)

namespace Scan

def isBlank (b : UInt8) : Bool :=
  b = 0x20 || b = 0x0A || b = 0x09 || b = 0x0D

def skipBlanks : Bytes → Bytes
  | [] => []
  | b :: rest => if isBlank b then skipBlanks rest else b :: rest

def isDigit (b : UInt8) : Bool :=
  0x30 ≤ b && b ≤ 0x39

/-- The letters of a word whose first letter was read. -/
def word : (letters : Bytes) → Bytes → Except Fault Bytes
  | [], input => .ok input
  | _ :: _, [] => .error (.before .endInValue [])
  | l :: letters, b :: rest =>
      if b = l then word letters rest else .error (.before .expectedIdent rest)

def ull : Bytes := [0x75, 0x6C, 0x6C]

def rue : Bytes := [0x72, 0x75, 0x65]

def alse : Bytes := [0x61, 0x6C, 0x73, 0x65]

def hexValue? (b : UInt8) : Option Nat :=
  if isDigit b then some (b.toNat - 0x30)
  else if 0x41 ≤ b && b ≤ 0x46 then some (b.toNat - 0x41 + 10)
  else if 0x61 ≤ b && b ≤ 0x66 then some (b.toNat - 0x61 + 10)
  else none

/-- The number of four hexadecimal digits. -/
def hex4? (a b c d : UInt8) : Option Nat :=
  match hexValue? a, hexValue? b, hexValue? c, hexValue? d with
  | some a, some b, some c, some d => some (a * 4096 + b * 256 + c * 16 + d)
  | _, _, _, _ => none

/-- The byte of a short escape. -/
def shortEscape? (b : UInt8) : Option UInt8 :=
  if b = 0x22 then some 0x22
  else if b = 0x5C then some 0x5C
  else if b = 0x2F then some 0x2F
  else if b = 0x62 then some 0x08
  else if b = 0x66 then some 0x0C
  else if b = 0x6E then some 0x0A
  else if b = 0x72 then some 0x0D
  else if b = 0x74 then some 0x09
  else none

def prepend (front : Bytes) : Except Fault (Bytes × Bytes) → Except Fault (Bytes × Bytes)
  | .ok (bytes, rest) => .ok (front ++ bytes, rest)
  | .error fault => .error fault

def isHighSurrogate (n : Nat) : Bool :=
  0xD800 ≤ n && n ≤ 0xDBFF

def isLowSurrogate (n : Nat) : Bool :=
  0xDC00 ≤ n && n ≤ 0xDFFF

/-- The character that two surrogates stand for. -/
def pairedChar (high low : Nat) : Char :=
  .ofNat (0x10000 + (high - 0xD800) * 1024 + (low - 0xDC00))

/-- The bytes of a string, escapes resolved, up to the closing quote; the opening one was read. -/
def stringBytes : Bytes → Except Fault (Bytes × Bytes)
  | [] => .error (.before .endInString [])
  | 0x22 :: rest => .ok ([], rest)
  | [0x5C] => .error (.before .endInString [])
  | 0x5C :: 0x75 :: a :: b :: c :: d :: rest =>
      match hex4? a b c d with
      | none => .error (.before .invalidEscape rest)
      | some n =>
          if isLowSurrogate n then
            .error (.before .loneSurrogate rest)
          else if isHighSurrogate n then
            match rest with
            | [] => .error (.before .endInString [])
            | [0x5C] => .error (.before .endInString [])
            | 0x5C :: 0x75 :: e :: f :: g :: h :: rest =>
                match hex4? e f g h with
                | none => .error (.before .invalidEscape rest)
                | some m =>
                    if isLowSurrogate m then
                      prepend (Utf8.encodeChar (pairedChar n m)) (stringBytes rest)
                    else
                      .error (.before .loneSurrogate rest)
            | 0x5C :: 0x75 :: _ => .error (.before .endInString [])
            | 0x5C :: _ :: rest => .error (.before .unexpectedHexEnd rest)
            | _ :: rest => .error (.before .unexpectedHexEnd rest)
          else
            prepend (Utf8.encodeChar (.ofNat n)) (stringBytes rest)
  | 0x5C :: 0x75 :: _ => .error (.before .endInString [])
  | 0x5C :: b :: rest =>
      match shortEscape? b with
      | some c => prepend [c] (stringBytes rest)
      | none => .error (.before .invalidEscape rest)
  | b :: rest =>
      if b < 0x20 then .error (.before .controlCharacter rest)
      else prepend [b] (stringBytes rest)

/-- A string whose opening quote was read. -/
def string : Read String := fun input => do
  let (bytes, rest) ← stringBytes input
  match Utf8.decode bytes with
  | .ok cs => .ok (.ofList cs, rest)
  | .error refusal => .error ⟨.invalidUnicode, rest.length + (bytes.length - refusal.soundUpTo)⟩

/-- Passes over a string whose opening quote was read; surrogates and UTF-8 are not checked. -/
def skipString : Bytes → Except Fault Bytes
  | [] => .error (.before .endInString [])
  | 0x22 :: rest => .ok rest
  | [0x5C] => .error (.before .endInString [])
  | 0x5C :: 0x75 :: a :: b :: c :: d :: rest =>
      match hex4? a b c d with
      | none => .error (.before .invalidEscape rest)
      | some _ => skipString rest
  | 0x5C :: 0x75 :: _ => .error (.before .endInString [])
  | 0x5C :: b :: rest =>
      match shortEscape? b with
      | some _ => skipString rest
      | none => .error (.before .invalidEscape rest)
  | b :: rest =>
      if b < 0x20 then .error (.before .controlCharacter (b :: rest)) else skipString rest

/-- The next item of a list: the rest from the item on, or from the closing bracket on if there
is none. -/
def nextItem (first : Bool) (input : Bytes) : Except Fault (Bool × Bytes) :=
  match skipBlanks input with
  | [] => .error (.before .endInList [])
  | b :: rest =>
      if b = 0x5D then .ok (false, b :: rest)
      else if first then .ok (true, b :: rest)
      else if b = 0x2C then
        match skipBlanks rest with
        | [] => .error (.before .endInValue [])
        | c :: rest =>
            if c = 0x5D then .error (.behindNext .trailingComma (c :: rest))
            else .ok (true, c :: rest)
      else .error (.behindNext .expectedListEnd (b :: rest))

/-- The key of the next member of an object, and the rest behind it; at the closing bracket there
is none, and the rest starts with the bracket. -/
def nextKey (first : Bool) (input : Bytes) : Except Fault (Option String × Bytes) :=
  match skipBlanks input with
  | [] => .error (.before .endInObject [])
  | b :: rest =>
      if b = 0x7D then .ok (none, b :: rest)
      else if first then
        if b = 0x22 then (string rest).map fun (key, rest) => (some key, rest)
        else .error (.behindNext .keyMustBeString (b :: rest))
      else if b = 0x2C then
        match skipBlanks rest with
        | [] => .error (.before .endInValue [])
        | c :: rest =>
            if c = 0x22 then (string rest).map fun (key, rest) => (some key, rest)
            else if c = 0x7D then .error (.behindNext .trailingComma (c :: rest))
            else .error (.behindNext .keyMustBeString (c :: rest))
      else .error (.behindNext .expectedObjectEnd (b :: rest))

def colon (input : Bytes) : Except Fault Bytes :=
  match skipBlanks input with
  | [] => .error (.before .endInObject [])
  | b :: rest => if b = 0x3A then .ok rest else .error (.behindNext .expectedColon (b :: rest))

/-- The end of a list of which all wanted items were read. -/
def endList (input : Bytes) : Except Fault Bytes :=
  match skipBlanks input with
  | [] => .error (.before .endInList [])
  | b :: rest =>
      if b = 0x5D then .ok rest
      else if b = 0x2C then
        match skipBlanks rest with
        | 0x5D :: rest => .error (.behindNext .trailingComma (0x5D :: rest))
        | rest => .error (.behindNext .trailingCharacters rest)
      else .error (.behindNext .trailingCharacters (b :: rest))

/-- Where a fault of a list as a whole is placed: behind its end, as far as it is there. -/
def behindList (input : Bytes) : Bytes :=
  match skipBlanks input with
  | [] => []
  | b :: rest =>
      if b = 0x5D then rest else if b = 0x2C then skipBlanks rest else b :: rest

/-- Where a fault of an object as a whole is placed: behind its end, if it is there. -/
def behindObject (input : Bytes) : Bytes :=
  match skipBlanks input with
  | [] => []
  | b :: rest => if b = 0x7D then rest else b :: rest

end Scan

end ShellBridge.Json
