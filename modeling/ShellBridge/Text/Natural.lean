/-!
Natural numbers in decimal, with an optional plus sign, below a bound.
-/

namespace ShellBridge.Text.Natural

inductive Fault where
  | empty
  | digit
  | tooLarge
  deriving DecidableEq, Repr

def Fault.message : Fault → String
  | empty => "cannot parse integer from empty string"
  | digit => "invalid digit found in string"
  | tooLarge => "number too large to fit in target type"

/-- Reads digits behind those that make up `value`.  The first fault counts: a character that is no
digit, or a digit that brings the number up to the bound. -/
def readDigits (bound value : Nat) : List Char → Except Fault Nat
  | [] => .ok value
  | c :: rest =>
      if c.isDigit then
        let next := 10 * value + (c.toNat - '0'.toNat)
        if next < bound then readDigits bound next rest else .error .tooLarge
      else .error .digit

/-- Reads a number; a sign alone is no number. -/
def parse (bound : Nat) (text : String) : Except Fault Nat :=
  match text.toList with
  | [] => .error .empty
  | ['+'] => .error .digit
  | '+' :: digits => readDigits bound 0 digits
  | digits => readDigits bound 0 digits

end ShellBridge.Text.Natural
