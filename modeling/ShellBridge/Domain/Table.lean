import ShellBridge.Text.Blank
import ShellBridge.Text.Numeral

/-!
Tables of characters, written as text.

Characters are given by their numbers in hexadecimal.  A table of spans holds pieces such as `41`
and `41-5A`.  A table of rules says what characters stand for:

* `B8=20.327` - the character stands for these, `C0-C5=41` - so does each of a span;
* `132=69.6A,6C.B7` - the character, and those that follow it, stand for these in turn;
* `41-5A>61` - the first of the span stands for this one, and the others for those that follow it.
-/

namespace ShellBridge.Domain

/-- Characters from one number to another. -/
structure Span where
  first : Nat
  last : Nat
  deriving DecidableEq, Repr

def Span.contains (span : Span) (c : Char) : Bool :=
  span.first ≤ c.toNat && c.toNat ≤ span.last

/-- Whether a character is in one of the spans. -/
def isIn (spans : List Span) (c : Char) : Bool :=
  spans.any (·.contains c)

/-- What each character of a span stands for. -/
structure Rule where
  span : Span
  /-- What the first one stands for. -/
  image : List Nat
  /-- How far the image moves from one character of the span to the next. -/
  step : Nat
  deriving DecidableEq, Repr

def Rule.apply (rule : Rule) (c : Char) : List Nat :=
  rule.image.map (· + rule.step * (c.toNat - rule.span.first))

/-- What a character stands for by the first rule that has it. -/
def image? (rules : List Rule) (c : Char) : Option (List Nat) :=
  (rules.find? (·.span.contains c)).map (·.apply c)

/-! ## Reading -/

def readCode (text : List Char) : Nat :=
  (Text.numeral? 16 Text.hexValue? text).getD 0

def readCodes (text : List Char) : List Nat :=
  (Text.splitChars '.' text).map readCode

def Span.read (text : List Char) : Span :=
  match Text.splitChars '-' text with
  | [first, last] => ⟨readCode first, readCode last⟩
  | _ => ⟨readCode text, readCode text⟩

/-- A rule for each of the images, for characters that follow one another. -/
def Rule.inTurn (first : Nat) : List (List Char) → List Rule
  | [] => []
  | image :: rest => ⟨⟨first, first⟩, readCodes image, 0⟩ :: inTurn (first + 1) rest

def Rule.readAll (text : List Char) : List Rule :=
  match Text.splitChars '>' text, Text.splitChars '=' text with
  | [span, image], _ => [⟨.read span, readCodes image, 1⟩]
  | _, [span, images] =>
      match Text.splitChars ',' images with
      | [image] => [⟨.read span, readCodes image, 0⟩]
      | images => Rule.inTurn (readCode span) images
  | _, _ => []

def readSpans (lines : List String) : List Span :=
  lines.flatMap fun line => (Text.splitChars ' ' line.toList).map Span.read

def readRules (lines : List String) : List Rule :=
  lines.flatMap fun line => (Text.splitChars ' ' line.toList).flatMap Rule.readAll

end ShellBridge.Domain
