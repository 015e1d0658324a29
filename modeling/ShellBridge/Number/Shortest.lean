import ShellBridge.Number.Binary64

/-!
The shortest decimal that reads back as a given binary64 number, and among these the nearest.

The decimals with a given number of digits form a grid.  If a point of the grid reads back as the
number, then so does one of the number's two neighbours on the grid, so testing these two on finer
and finer grids finds the fewest digits.
-/

namespace ShellBridge

/-- The number `coefficient * 10 ^ exponent`. -/
structure Decimal where
  coefficient : Nat
  exponent : Int
  deriving DecidableEq, Repr

namespace Decimal

/-- Drops trailing zeros of the coefficient. -/
def strip : (fuel : Nat) → Decimal → Decimal
  | 0, d => d
  | fuel + 1, d =>
      if d.coefficient ≠ 0 ∧ d.coefficient % 10 = 0 then
        strip fuel ⟨d.coefficient / 10, d.exponent + 1⟩
      else
        d

def digits (d : Decimal) : List Char :=
  Nat.toDigits 10 d.coefficient

/-- The exponent of the first digit. -/
def magnitude (d : Decimal) : Int :=
  d.exponent + (d.digits.length - 1 : Nat)

end Decimal

namespace Shortest

/-- The fraction `num / den / 10 ^ exponent` as a pair. -/
def scale (num den : Nat) : Int → Nat × Nat
  | .ofNat e => (num, den * Nat.pow 10 e)
  | .negSucc e => (num * Nat.pow 10 (e + 1), den)

/-- The exponent of the first decimal digit of a positive fraction. -/
def magnitude (num den : Nat) : Int :=
  if den ≤ num then
    ((Nat.toDigits 10 (num / den)).length - 1 : Nat)
  else
    -((Nat.toDigits 10 ((den - 1) / num)).length : Nat)

/-- The interval of reals that round to a number, in quarters of its last binary digit: from
`low / 4` to `high / 4` units, ends included or not. -/
structure Interval where
  low : Nat
  high : Nat
  closed : Bool

def interval (x : Binary64) : Interval :=
  let m := x.mantissa
  let closed := m % 2 == 0
  if m = 0x10000000000000 ∧ x.exponent > Binary64.leastExponent then
    ⟨4 * m - 1, 4 * m + 2, closed⟩
  else
    ⟨4 * m - 2, 4 * m + 2, closed⟩

/-- A quarter of the unit in the last place, as a fraction. -/
def quarter (x : Binary64) : Nat × Nat :=
  match x.exponent - 2 with
  | .ofNat e => (Nat.pow 2 e, 1)
  | .negSucc e => (1, Nat.pow 2 (e + 1))

/-- Whether the decimal `d * 10 ^ exponent` reads back as the number. -/
def readsBack (x : Binary64) (d : Nat) (exponent : Int) : Bool :=
  let (a, b) := quarter x
  let i := interval x
  -- compares d * 10 ^ exponent with the ends i * a / b
  let (n, m) :=
    match exponent with
    | .ofNat e => (d * Nat.pow 10 e * b, a)
    | .negSucc e => (d * b, a * Nat.pow 10 (e + 1))
  if i.closed then i.low * m ≤ n && n ≤ i.high * m else i.low * m < n && n < i.high * m

/-- The better neighbour of the number on the grid of multiples of `10 ^ exponent`, if one reads
back: the nearer, and of two equally near ones the even one. -/
def onGrid? (x : Binary64) (exponent : Int) : Option Decimal :=
  let (num, den) := x.fraction
  let (n, d) := scale num den exponent
  let below := n / d
  let r := n % d
  let nearer := if 2 * r < d || (2 * r == d && below % 2 == 0) then below else below + 1
  let farther := if nearer = below then below + 1 else below
  if nearer ≠ 0 && readsBack x nearer exponent then some ⟨nearer, exponent⟩
  else if farther ≠ 0 && readsBack x farther exponent then some ⟨farther, exponent⟩
  else none

/-- Tries the grids on which the number has `count`, `count + 1`, … digits. -/
def search (x : Binary64) (magnitude : Int) : (fuel count : Nat) → Option Decimal
  | 0, _ => none
  | fuel + 1, count =>
      match onGrid? x (magnitude - count + 1) with
      | some d => some d
      | none => search x magnitude fuel (count + 1)

end Shortest

/-- The shortest decimal for the magnitude of a number; 17 digits always suffice. -/
def Binary64.shortest (x : Binary64) : Decimal :=
  if x.mantissa = 0 then
    ⟨0, 0⟩
  else
    let (num, den) := x.fraction
    match Shortest.search x (Shortest.magnitude num den) 17 1 with
    | some d => d.strip 20
    | none => ⟨0, 0⟩

end ShellBridge
