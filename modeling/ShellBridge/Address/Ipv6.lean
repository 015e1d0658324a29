import ShellBridge.Text.Blank
import ShellBridge.Text.Numeral
import ShellBridge.Text.Quoted

/-!
IPv6 addresses: eight groups of sixteen bits.

`parse` reads the usual notation, where `::` stands for zero groups and the last two groups may be
dotted decimals.  `text` writes the canonical one: no leading zeros, and the first of the longest
runs of zero groups is left out, if it has two groups at least.
-/

namespace ShellBridge.Ipv6

open Text (numeral? hexValue? decimalValue?)

/-- A group of one to four hexadecimal digits. -/
def group? (cs : List Char) : Option Nat :=
  if cs.length ≤ 4 then numeral? 16 hexValue? cs else none

/-- A decimal number up to 255, without leading zeros. -/
def octet? (cs : List Char) : Option Nat :=
  if cs.length ≤ 3 ∧ (cs.head? = some '0' → cs = ['0']) then
    (numeral? 10 decimalValue? cs).filter (· ≤ 255)
  else none

/-- Four dotted decimals, as two groups. -/
def dotted? (cs : List Char) : Option (List Nat) :=
  match Text.splitChars '.' cs with
  | [a, b, c, d] => do
      let a ← octet? a
      let b ← octet? b
      let c ← octet? c
      let d ← octet? d
      some [a * 256 + b, c * 256 + d]
  | _ => none

/-- Groups at the end of an address: the last piece may be dotted. -/
def lastGroups? : List (List Char) → Option (List Nat)
  | [] => some []
  | [piece] => if piece.contains '.' then dotted? piece else (group? piece).map ([·])
  | piece :: rest => do
      let g ← group? piece
      let gs ← lastGroups? rest
      some (g :: gs)

/-- What stands before and behind the first `::`. -/
def splitGap : List Char → Option (List Char × List Char)
  | ':' :: ':' :: rest => some ([], rest)
  | c :: rest => (splitGap rest).map fun (before, behind) => (c :: before, behind)
  | [] => none

/-- The pieces between colons; an empty text has none. -/
def pieces (cs : List Char) : List (List Char) :=
  if cs = [] then [] else Text.splitChars ':' cs

/-- The eight groups of an address.  A gap stands for one group at least. -/
def parse (cs : List Char) : Option (List Nat) :=
  match splitGap cs with
  | none => (lastGroups? (pieces cs)).filter (·.length = 8)
  | some (before, behind) => do
      let first ← (pieces before).mapM group?
      let last ← lastGroups? (pieces behind)
      if first.length + last.length ≤ 7 then
        some (first ++ List.replicate (8 - (first.length + last.length)) 0 ++ last)
      else none

/-- Where the first of the longest runs of zeros starts, counted from `start`, and its length. -/
def longestZeros (start : Nat) : List Nat → Nat × Nat
  | [] => (start, 0)
  | g :: rest =>
      let here := ((g :: rest).takeWhile (· = 0)).length
      let (position, length) := longestZeros (start + 1) rest
      if length ≤ here then (start, here) else (position, length)

def groupsText (groups : List Nat) : String :=
  ":".intercalate (groups.map Text.hex)

def text (groups : List Nat) : String :=
  let (position, length) := longestZeros 0 groups
  if length < 2 then groupsText groups
  else groupsText (groups.take position) ++ "::" ++ groupsText (groups.drop (position + length))

end ShellBridge.Ipv6
