import ShellBridge.Json.Writer

/-!
Why a text is refused, and where.

A reader works on the bytes that are left, so a fault carries the number of bytes left behind its
place; `Place.of` turns this into a line and a column of the whole text.
-/

namespace ShellBridge.Json

/-- What stands in the text in place of what a type asks for. -/
inductive Found where
  | null
  | boolean (b : Bool)
  | number (n : Number)
  | string (s : String)
  | sequence
  | map
  deriving DecidableEq

inductive Cause where
  | endInValue
  | endInString
  | endInList
  | endInObject
  | expectedValue
  | expectedIdent
  | expectedColon
  | expectedListEnd
  | expectedObjectEnd
  | trailingComma
  | trailingCharacters
  | keyMustBeString
  | invalidNumber
  | numberOutOfRange
  | invalidEscape
  | loneSurrogate
  | unexpectedHexEnd
  | controlCharacter
  | invalidUnicode
  | recursionLimit
  | invalidType (found : Found) (expected : String)
  | invalidLength (length : Nat) (expected : String)
  | missingField (name : String)
  | duplicateField (name : String)
  | unknownVariant (name : String) (known : List String)
  deriving DecidableEq

def Found.message : Found → String
  | null => "null"
  | boolean b => s!"boolean `{b}`"
  | number (.int i) => "integer `" ++ .ofList (Number.int i).chars ++ "`"
  | number (.float x) => "floating point `" ++ .ofList (Number.float x).chars ++ "`"
  | string s => "string " ++ Text.quoted s
  | sequence => "sequence"
  | map => "map"

def Cause.message : Cause → String
  | endInValue => "EOF while parsing a value"
  | endInString => "EOF while parsing a string"
  | endInList => "EOF while parsing a list"
  | endInObject => "EOF while parsing an object"
  | expectedValue => "expected value"
  | expectedIdent => "expected ident"
  | expectedColon => "expected `:`"
  | expectedListEnd => "expected `,` or `]`"
  | expectedObjectEnd => "expected `,` or `\x7d`"
  | trailingComma => "trailing comma"
  | trailingCharacters => "trailing characters"
  | keyMustBeString => "key must be a string"
  | invalidNumber => "invalid number"
  | numberOutOfRange => "number out of range"
  | invalidEscape => "invalid escape"
  | loneSurrogate => "lone leading surrogate in hex escape"
  | unexpectedHexEnd => "unexpected end of hex escape"
  | controlCharacter => "control character (\\u0000-\\u001F) found while parsing a string"
  | invalidUnicode => "invalid unicode code point"
  | recursionLimit => "recursion limit exceeded"
  | invalidType found expected => s!"invalid type: {found.message}, expected {expected}"
  | invalidLength length expected => s!"invalid length {length}, expected {expected}"
  | missingField name => s!"missing field `{name}`"
  | duplicateField name => s!"duplicate field `{name}`"
  | unknownVariant name known =>
      s!"unknown variant `{name}`, expected one of " ++
        ", ".intercalate (known.map fun k => s!"`{k}`")

/-- A cause and the number of bytes left behind its place. -/
structure Fault where
  cause : Cause
  left : Nat
  deriving DecidableEq

namespace Fault

/-- A fault right before the rest. -/
def before (cause : Cause) (rest : Bytes) : Fault :=
  ⟨cause, rest.length⟩

/-- A fault behind the next byte of the rest, if there is one. -/
def behindNext (cause : Cause) (rest : Bytes) : Fault :=
  ⟨cause, rest.length - 1⟩

end Fault

/-- A line, counted from one, and the number of bytes in front of the place on that line. -/
structure Place where
  line : Nat
  column : Nat
  deriving DecidableEq, Repr

namespace Place

def advance (place : Place) (b : UInt8) : Place :=
  if b = 0x0A then ⟨place.line + 1, 0⟩ else ⟨place.line, place.column + 1⟩

/-- The place behind a text. -/
def behind (text : Bytes) : Place :=
  text.foldl advance ⟨1, 0⟩

end Place

/-- The refusal of a text: faults of a document that was read before have no place. -/
structure Refusal where
  cause : Cause
  place : Option Place
  deriving DecidableEq

def Refusal.message (refusal : Refusal) : String :=
  match refusal.place with
  | none => refusal.cause.message
  | some place =>
      s!"{refusal.cause.message} at line {place.line} column {place.column}"

def Fault.inText (text : Bytes) (fault : Fault) : Refusal :=
  ⟨fault.cause, some (Place.behind (text.take (text.length - fault.left)))⟩

end ShellBridge.Json
