/-!
UTF-8 as lists of bytes.

`encode` writes characters, `decode` reads them back and refuses everything else.  A refusal says
how many bytes before it were sound and how long the unsound piece is; a piece that the end of
the text cuts off has no length.
-/

namespace ShellBridge

abbrev Bytes := List UInt8

namespace Utf8

def encodeChar (c : Char) : Bytes :=
  let n := c.toNat
  if n < 0x80 then
    [.ofNat n]
  else if n < 0x800 then
    [.ofNat (0xC0 + n / 64), .ofNat (0x80 + n % 64)]
  else if n < 0x10000 then
    [.ofNat (0xE0 + n / 4096), .ofNat (0x80 + n / 64 % 64), .ofNat (0x80 + n % 64)]
  else
    [.ofNat (0xF0 + n / 262144), .ofNat (0x80 + n / 4096 % 64), .ofNat (0x80 + n / 64 % 64),
      .ofNat (0x80 + n % 64)]

def encode (cs : List Char) : Bytes :=
  cs.flatMap encodeChar

@[simp] theorem encode_nil : encode [] = [] := rfl

@[simp] theorem encode_cons (c : Char) (cs : List Char) :
    encode (c :: cs) = encodeChar c ++ encode cs := rfl

@[simp] theorem encode_append (cs ds : List Char) : encode (cs ++ ds) = encode cs ++ encode ds := by
  simp [encode]

/-- Why a text is not UTF-8: the sound bytes in front, and the length of the unsound piece. -/
structure Refusal where
  soundUpTo : Nat
  length : Option Nat
  deriving DecidableEq, Repr

def Refusal.message : Refusal → String
  | ⟨soundUpTo, some n⟩ => s!"invalid utf-8 sequence of {n} bytes from index {soundUpTo}"
  | ⟨soundUpTo, none⟩ => s!"incomplete utf-8 byte sequence from index {soundUpTo}"

def isTail (b : UInt8) : Bool :=
  0x80 ≤ b && b ≤ 0xBF

/-- The least second byte after a lead byte: shorter forms of a character are refused. -/
def leastSecond (lead : UInt8) : UInt8 :=
  if lead = 0xE0 then 0xA0 else if lead = 0xF0 then 0x90 else 0x80

/-- The greatest second byte after a lead byte: surrogates and numbers above U+10FFFF are refused. -/
def greatestSecond (lead : UInt8) : UInt8 :=
  if lead = 0xED then 0x9F else if lead = 0xF4 then 0x8F else 0xBF

def isSecond (lead b : UInt8) : Bool :=
  leastSecond lead ≤ b && b ≤ greatestSecond lead

def char2 (a b : UInt8) : Char :=
  .ofNat ((a.toNat - 0xC0) * 64 + (b.toNat - 0x80))

def char3 (a b c : UInt8) : Char :=
  .ofNat ((a.toNat - 0xE0) * 4096 + (b.toNat - 0x80) * 64 + (c.toNat - 0x80))

def char4 (a b c d : UInt8) : Char :=
  .ofNat ((a.toNat - 0xF0) * 262144 + (b.toNat - 0x80) * 4096 + (c.toNat - 0x80) * 64
    + (d.toNat - 0x80))

/-- Reads a text of which `sound` bytes were read before. -/
def decodeFrom (sound : Nat) : Bytes → Except Refusal (List Char)
  | [] => .ok []
  | a :: rest =>
      if a < 0x80 then
        (decodeFrom (sound + 1) rest).map (Char.ofNat a.toNat :: ·)
      else if 0xC2 ≤ a && a ≤ 0xDF then
        match rest with
        | [] => .error ⟨sound, none⟩
        | b :: rest =>
            if isTail b then (decodeFrom (sound + 2) rest).map (char2 a b :: ·)
            else .error ⟨sound, some 1⟩
      else if 0xE0 ≤ a && a ≤ 0xEF then
        match rest with
        | [] => .error ⟨sound, none⟩
        | b :: rest =>
            if !isSecond a b then .error ⟨sound, some 1⟩
            else
              match rest with
              | [] => .error ⟨sound, none⟩
              | c :: rest =>
                  if isTail c then (decodeFrom (sound + 3) rest).map (char3 a b c :: ·)
                  else .error ⟨sound, some 2⟩
      else if 0xF0 ≤ a && a ≤ 0xF4 then
        match rest with
        | [] => .error ⟨sound, none⟩
        | b :: rest =>
            if !isSecond a b then .error ⟨sound, some 1⟩
            else
              match rest with
              | [] => .error ⟨sound, none⟩
              | c :: rest =>
                  if !isTail c then .error ⟨sound, some 2⟩
                  else
                    match rest with
                    | [] => .error ⟨sound, none⟩
                    | d :: rest =>
                        if isTail d then (decodeFrom (sound + 4) rest).map (char4 a b c d :: ·)
                        else .error ⟨sound, some 3⟩
      else
        .error ⟨sound, some 1⟩

def decode (text : Bytes) : Except Refusal (List Char) :=
  decodeFrom 0 text

/-- The text of the bytes, if they are UTF-8. -/
def decode? (text : Bytes) : Option String :=
  match decode text with
  | .ok cs => some (.ofList cs)
  | .error _ => none

end Utf8

/-- The bytes that carry a text. -/
def utf8 (s : String) : Bytes :=
  Utf8.encode s.toList

@[simp] theorem utf8_append (s t : String) : utf8 (s ++ t) = utf8 s ++ utf8 t := by
  simp [utf8]

end ShellBridge
