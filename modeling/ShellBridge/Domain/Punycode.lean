/-!
Punycode: texts of any script as letters, digits and hyphens.

The ASCII characters of the text stand before the last hyphen.  Each number behind it says how far
to go from one insertion to the next, through all places of the text for a character, and then
through those for the character that follows it in the code.
-/

namespace ShellBridge.Domain.Punycode

/-- Letters count from 0, digits from 26. -/
def digit? (c : Char) : Option Nat :=
  if 'a' ≤ c ∧ c ≤ 'z' then some (c.toNat - 0x61)
  else if c.isDigit then some (c.toNat - 0x30 + 26)
  else none

/-- A digit below the threshold of its place is the last one of its number. -/
def threshold (bias place : Nat) : Nat :=
  min 26 (max 1 (36 * (place + 1) - bias))

def scale (delta : Nat) : Nat :=
  if 455 < delta then 36 + scale (delta / 35) else 36 * delta / (delta + 38)
termination_by delta
decreasing_by omega

/-- The bias for the number that follows `delta`, in a text that has now `size` characters. -/
def adapt (delta size : Nat) (isFirst : Bool) : Nat :=
  let delta := if isFirst then delta / 700 else delta / 2
  scale (delta + delta / size)

structure Decoder where
  text : List Char
  /-- The character inserted last. -/
  code : Nat
  /-- The place behind it. -/
  position : Nat
  bias : Nat
  /-- What the digits read of the present number denote. -/
  delta : Nat
  /-- What the next digit counts. -/
  weight : Nat
  /-- How many digits of the present number were read. -/
  place : Nat
  deriving DecidableEq, Repr

def Decoder.start (text : List Char) : Decoder :=
  ⟨text, 0x80, 0, 72, 0, 1, 0⟩

/-- Inserts a character, once its number is complete. -/
def Decoder.insert? (d : Decoder) : Option Decoder :=
  let size := d.text.length + 1
  let total := d.position + d.delta
  let code := d.code + total / size
  let position := total % size
  if code.isValidChar then
    some ⟨d.text.take position ++ .ofNat code :: d.text.drop position, code, position + 1,
      adapt d.delta size (d.position = 0), 0, 1, 0⟩
  else none

/-- Takes a digit.  Weights stay below 2³². -/
def Decoder.step (d : Decoder) (c : Char) : Option Decoder := do
  let digit ← digit? c
  let limit := threshold d.bias d.place
  let d := { d with delta := d.delta + digit * d.weight }
  if digit < limit then d.insert?
  else if d.weight * (36 - limit) < 0x100000000 then
    some { d with weight := d.weight * (36 - limit), place := d.place + 1 }
  else none

/-- What stands before and behind the last hyphen.  One at the start divides nothing. -/
def splitBase (cs : List Char) : List Char × List Char :=
  let digits := (cs.reverse.takeWhile (· ≠ '-')).reverse
  match cs.take (cs.length - digits.length) with
  | [] | ['-'] => ([], cs)
  | base => (base.dropLast, digits)

def decode? (cs : List Char) : Option (List Char) := do
  let (base, digits) := splitBase cs
  let d ← digits.foldlM Decoder.step (.start base)
  if d.place = 0 then some d.text else none

end ShellBridge.Domain.Punycode
