import ShellBridge.Text.Blank
import ShellBridge.Text.Numeral

/-!
IPv4 addresses in the lax notation of web addresses: one to four numbers, decimal, octal behind `0`
or hexadecimal behind `0x`, the last of which fills all the bytes that are left.
-/

namespace ShellBridge.Ipv4

open Text (numeral? hexValue? decimalValue?)

def octalValue? (c : Char) : Option Nat :=
  (decimalValue? c).filter (· < 8)

/-- One of the numbers; nothing behind `0` or `0x` counts as zero. -/
def number? : List Char → Option Nat
  | [] => none
  | ['0'] | ['0', 'x'] | ['0', 'X'] => some 0
  | '0' :: 'x' :: digits | '0' :: 'X' :: digits => numeral? 16 hexValue? digits
  | '0' :: digits => numeral? 8 octalValue? digits
  | digits => numeral? 10 decimalValue? digits

/-- The pieces between points, without an empty one at the end. -/
def pieces (host : List Char) : List (List Char) :=
  let all := Text.splitChars '.' host
  if all.getLast? = some [] then all.dropLast else all

/-- Whether a host is meant as an address: its last piece is a number. -/
def isMeant (host : List Char) : Bool :=
  match (pieces host).getLast? with
  | some last => (last ≠ [] && last.all Char.isDigit) || (number? last).isSome
  | none => false

/-- The address as a number. -/
def parse (host : List Char) : Option Nat := do
  let numbers ← (pieces host).mapM number?
  let last ← numbers.getLast?
  let front := numbers.dropLast
  if numbers.length ≤ 4 ∧ front.all (· ≤ 255) ∧ last < Nat.pow 256 (4 - front.length) then
    some (front.foldl (fun n x => 256 * n + x) 0 * Nat.pow 256 (4 - front.length) + last)
  else none

end ShellBridge.Ipv4
