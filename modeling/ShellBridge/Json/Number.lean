import ShellBridge.Number.Shortest

/-!
Numbers of JSON documents: integers between `-2 ^ 63` and `2 ^ 64 - 1`, and binary64 numbers.
-/

namespace ShellBridge.Json

/-- The integers that a document keeps exact. -/
structure Integer where
  val : Int
  least_le : -0x8000000000000000 ≤ val
  lt_bound : val < 0x10000000000000000
  deriving DecidableEq, Repr

instance : Inhabited Integer := ⟨⟨0, by decide, by decide⟩⟩

inductive Number where
  | int (i : Integer)
  | float (x : Binary64)
  deriving DecidableEq, Repr, Inhabited

def natDigits (n : Nat) : List Char :=
  Nat.toDigits 10 n

def intDigits : Int → List Char
  | .ofNat n => natDigits n
  | .negSucc n => '-' :: natDigits (n + 1)

/-- How a float is laid out: positional while the exponent of its first digit lies in a range, and
with an exponent outside of it; there is always a point in the positional form. -/
structure FloatLayout where
  leastPositional : Int
  positionalBound : Int

/-- Floats are positional from `0.00001` up to below `10 ^ 16`. -/
def floatLayout : FloatLayout := ⟨-5, 16⟩

namespace FloatLayout

def positional (digits : List Char) (magnitude : Int) : List Char :=
  match magnitude with
  | .ofNat e =>
      let whole := digits.take (e + 1)
      let part := digits.drop (e + 1)
      whole ++ List.replicate (e + 1 - whole.length) '0' ++ '.' :: (if part.isEmpty then ['0'] else part)
  | .negSucc e => '0' :: '.' :: (List.replicate e '0' ++ digits)

def scientific (digits : List Char) (magnitude : Int) : List Char :=
  let tail := digits.drop 1
  digits.take 1 ++ (if tail.isEmpty then [] else '.' :: tail) ++ 'e' ::
    (if magnitude < 0 then intDigits magnitude else '+' :: intDigits magnitude)

def chars (layout : FloatLayout) (x : Binary64) : List Char :=
  let d := x.shortest
  let body :=
    if layout.leastPositional ≤ d.magnitude ∧ d.magnitude < layout.positionalBound then
      positional d.digits d.magnitude
    else
      scientific d.digits d.magnitude
  if x.negative then '-' :: body else body

end FloatLayout

def Number.chars : Number → List Char
  | .int i => intDigits i.val
  | .float x => floatLayout.chars x

end ShellBridge.Json
