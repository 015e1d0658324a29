import ShellBridge.Text.Utf8

/-!
Base64 with the URL-safe alphabet and without padding.

`decode` is strict: no padding, no foreign byte, and no stray bit behind the last byte, so that
every text it accepts is the one `encode` writes.
-/

namespace ShellBridge.Base64Url

/-- The symbol of a six-bit number. -/
def symbol (n : Nat) : UInt8 :=
  if n < 26 then .ofNat (0x41 + n)
  else if n < 52 then .ofNat (0x61 + (n - 26))
  else if n < 62 then .ofNat (0x30 + (n - 52))
  else if n = 62 then 0x2D
  else 0x5F

/-- The six-bit number of a symbol. -/
def sextet? (b : UInt8) : Option Nat :=
  if 0x41 ≤ b && b ≤ 0x5A then some (b.toNat - 0x41)
  else if 0x61 ≤ b && b ≤ 0x7A then some (b.toNat - 0x61 + 26)
  else if 0x30 ≤ b && b ≤ 0x39 then some (b.toNat - 0x30 + 52)
  else if b = 0x2D then some 62
  else if b = 0x5F then some 63
  else none

/-- Three bytes become four symbols; one or two bytes at the end become two or three. -/
def encode : Bytes → Bytes
  | a :: b :: c :: rest =>
      symbol (a.toNat / 4) :: symbol (a.toNat % 4 * 16 + b.toNat / 16)
        :: symbol (b.toNat % 16 * 4 + c.toNat / 64) :: symbol (c.toNat % 64) :: encode rest
  | [a, b] =>
      [symbol (a.toNat / 4), symbol (a.toNat % 4 * 16 + b.toNat / 16), symbol (b.toNat % 16 * 4)]
  | [a] => [symbol (a.toNat / 4), symbol (a.toNat % 4 * 16)]
  | [] => []

inductive Refusal where
  | invalidByte (offset : Nat) (byte : UInt8)
  | invalidLength
  | invalidLastSymbol (offset : Nat) (byte : UInt8)
  | invalidPadding
  deriving DecidableEq, Repr

def Refusal.message : Refusal → String
  | invalidByte offset byte => s!"Invalid byte {byte.toNat}, offset {offset}."
  | invalidLength => "Encoded text cannot have a 6-bit remainder."
  | invalidLastSymbol offset byte => s!"Invalid last symbol {byte.toNat}, offset {offset}."
  | invalidPadding => "Invalid padding"

/-- The padding sign. -/
def pad : UInt8 := 0x3D

/-- Whether the rest of a text, from `offset` on, is padding that completes a group of four. -/
def isPadding (offset : Nat) (rest : Bytes) : Bool :=
  2 ≤ offset % 4 && rest.length + offset % 4 ≤ 4 && rest.all (· = pad)

/-- The numbers of the symbols from `offset` on; padding at the very end has its own refusal. -/
def sextets (offset : Nat) : Bytes → Except Refusal (List Nat)
  | [] => .ok []
  | b :: rest =>
      match sextet? b with
      | some n => (sextets (offset + 1) rest).map (n :: ·)
      | none =>
          if isPadding offset (b :: rest) then .error .invalidPadding
          else .error (.invalidByte offset b)

/-- Regroups sextets to bytes; `none` if bits are left that no byte takes. -/
def regroup : List Nat → Option Bytes
  | a :: b :: c :: d :: rest =>
      (regroup rest).map fun bytes =>
        .ofNat (a * 4 + b / 16) :: .ofNat (b % 16 * 16 + c / 4) :: .ofNat (c % 4 * 64 + d) :: bytes
  | [a, b, c] =>
      if c % 4 = 0 then some [.ofNat (a * 4 + b / 16), .ofNat (b % 16 * 16 + c / 4)] else none
  | [a, b] => if b % 16 = 0 then some [.ofNat (a * 4 + b / 16)] else none
  | [_] => none
  | [] => some []

def decode (text : Bytes) : Except Refusal Bytes :=
  if text.length % 4 = 1 then
    match text.getLast? with
    | some b =>
        if b ≠ pad ∧ sextet? b = none then .error (.invalidByte (text.length - 1) b)
        else .error .invalidLength
    | none => .error .invalidLength
  else
    match sextets 0 text with
    | .error refusal => .error refusal
    | .ok numbers =>
        match regroup numbers with
        | some bytes => .ok bytes
        | none => .error (.invalidLastSymbol (text.length - 1) (text.getLast?.getD pad))

end ShellBridge.Base64Url
