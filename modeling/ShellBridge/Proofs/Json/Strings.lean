import ShellBridge.Proofs.Text.Utf8
import ShellBridge.Json.Scan
import Mathlib.Tactic.SplitIfs

/-!
Reading written strings back.

Each character of a string is written as a piece of its own, and reading a piece gives the bytes of
the character.
-/

namespace ShellBridge.Json.Scan

theorem prepend_prepend (front next : Bytes) (read : Except Fault (Bytes × Bytes)) :
    prepend front (prepend next read) = prepend (front ++ next) read := by
  cases read with
  | ok pair => simp [prepend]
  | error fault => rfl

/-- A byte that stands for itself. -/
def IsPlain (b : UInt8) : Prop :=
  b ≠ 0x22 ∧ b ≠ 0x5C ∧ ¬b < 0x20

theorem stringBytes_plain {b : UInt8} (plain : IsPlain b) (rest : Bytes) :
    stringBytes (b :: rest) = prepend [b] (stringBytes rest) := by
  obtain ⟨noQuote, noBackslash, noControl⟩ := plain
  rw [stringBytes.eq_7 b rest noQuote (fun same => absurd same noBackslash)
    (fun _ _ _ _ _ same => absurd same noBackslash) (fun _ same => absurd same noBackslash)
    (fun _ _ same => absurd same noBackslash), if_neg noControl]

theorem stringBytes_plains {front : Bytes} (plain : ∀ b ∈ front, IsPlain b) (rest : Bytes) :
    stringBytes (front ++ rest) = prepend front (stringBytes rest) := by
  induction front with
  | nil =>
      cases read : stringBytes rest with
      | ok pair => simp [read, prepend]
      | error fault => simp [read, prepend]
  | cons b front inductionHypothesis =>
      have others := inductionHypothesis fun c membership =>
        plain c (List.mem_cons_of_mem b membership)
      rw [List.cons_append, stringBytes_plain (plain b List.mem_cons_self), others, prepend_prepend]
      rfl

theorem isPlain_of_le {b : UInt8} (large : 0x80 ≤ b.toNat) : IsPlain b := by
  refine ⟨?_, ?_, ?_⟩
  · rintro rfl
    exact absurd large (by decide)
  · rintro rfl
    exact absurd large (by decide)
  · rw [UInt8.lt_iff_toNat_lt]
    have : (0x20 : UInt8).toNat = 32 := rfl
    omega

/-- The bytes of a character that is not escaped are plain. -/
theorem isPlain_of_mem_encodeChar {c : Char} (noQuote : c ≠ '"') (noBackslash : c ≠ '\\')
    (noControl : 0x20 ≤ c.toNat) : ∀ b ∈ Utf8.encodeChar c, IsPlain b := by
  intro b membership
  by_cases short : c.toNat < 0x80
  · simp only [Utf8.encodeChar, short, if_true, List.mem_singleton] at membership
    have value : b.toNat = c.toNat := by
      rw [membership, Utf8.toNat_ofNat (by omega)]
    refine ⟨?_, ?_, ?_⟩
    · rintro rfl
      exact noQuote (Char.toNat_inj.mp value.symm)
    · rintro rfl
      exact noBackslash (Char.toNat_inj.mp value.symm)
    · rw [UInt8.lt_iff_toNat_lt, value]
      have : (0x20 : UInt8).toNat = 32 := rfl
      omega
  · apply isPlain_of_le
    have valid := Utf8.toNat_valid c
    simp only [Utf8.encodeChar, short, if_false] at membership
    split at membership
    · simp only [List.mem_cons, List.not_mem_nil, or_false] at membership
      rcases membership with rfl | rfl <;> rw [Utf8.toNat_ofNat (by omega)] <;> omega
    · split at membership
      · simp only [List.mem_cons, List.not_mem_nil, or_false] at membership
        rcases membership with rfl | rfl | rfl <;> rw [Utf8.toNat_ofNat (by omega)] <;> omega
      · simp only [List.mem_cons, List.not_mem_nil, or_false] at membership
        rcases membership with rfl | rfl | rfl | rfl <;> rw [Utf8.toNat_ofNat (by omega)] <;> omega

theorem hexValue?_hexDigit : ∀ n < 16,
    Utf8.encodeChar (Text.hexDigit n) = [.ofNat (Text.hexDigit n).toNat] ∧
      hexValue? (.ofNat (Text.hexDigit n).toNat) = some n := by
  decide

/-- A control without a short escape is written by its number. -/
theorem stringBytes_control {c : Char} (control : c.toNat < 0x20) (rest : Bytes) :
    stringBytes (Utf8.encode ['\\', 'u', '0', '0', Text.hexDigit (c.toNat / 16),
        Text.hexDigit (c.toNat % 16)] ++ rest) =
      prepend (Utf8.encodeChar c) (stringBytes rest) := by
  obtain ⟨high, highValue⟩ := hexValue?_hexDigit (c.toNat / 16) (by omega)
  obtain ⟨low, lowValue⟩ := hexValue?_hexDigit (c.toNat % 16) (by omega)
  have written : Utf8.encode ['\\', 'u', '0', '0', Text.hexDigit (c.toNat / 16),
      Text.hexDigit (c.toNat % 16)] ++ rest =
      0x5C :: 0x75 :: 0x30 :: 0x30 :: .ofNat (Text.hexDigit (c.toNat / 16)).toNat
        :: .ofNat (Text.hexDigit (c.toNat % 16)).toNat :: rest := by
    simp only [Utf8.encode_cons, high, low, Utf8.encode_nil]
    rfl
  have number : hex4? 0x30 0x30 (.ofNat (Text.hexDigit (c.toNat / 16)).toNat)
      (.ofNat (Text.hexDigit (c.toNat % 16)).toNat) = some c.toNat := by
    have zero : hexValue? 0x30 = some 0 := by decide
    simp only [hex4?, zero, highValue, lowValue, Option.some.injEq]
    omega
  have noLow : ¬isLowSurrogate c.toNat = true := by
    simp only [isLowSurrogate, Bool.and_eq_true, decide_eq_true_eq]
    omega
  have noHigh : ¬isHighSurrogate c.toNat = true := by
    simp only [isHighSurrogate, Bool.and_eq_true, decide_eq_true_eq]
    omega
  rw [written, stringBytes.eq_4, number]
  simp only [noLow, noHigh, Bool.false_eq_true, if_false, Char.ofNat_toNat]

theorem stringBytes_short {b value : UInt8} (known : shortEscape? b = some value)
    (different : b ≠ 0x75) (rest : Bytes) :
    stringBytes (0x5C :: b :: rest) = prepend [value] (stringBytes rest) := by
  rw [stringBytes.eq_6 b rest (fun _ _ _ _ _ same => absurd same different)
    (fun same => absurd same different), known]

/-- The piece of any character reads back as its bytes. -/
theorem stringBytes_escapeChar (c : Char) (rest : Bytes) :
    stringBytes (Utf8.encode (escapeChar c) ++ rest) =
      prepend (Utf8.encodeChar c) (stringBytes rest) := by
  unfold escapeChar
  split_ifs with quote backslash backspace formFeed lineFeed carriageReturn tab control
  · subst quote
    exact stringBytes_short (by decide) (by decide) rest
  · subst backslash
    exact stringBytes_short (by decide) (by decide) rest
  · subst backspace
    exact stringBytes_short (by decide) (by decide) rest
  · subst formFeed
    exact stringBytes_short (by decide) (by decide) rest
  · subst lineFeed
    exact stringBytes_short (by decide) (by decide) rest
  · subst carriageReturn
    exact stringBytes_short (by decide) (by decide) rest
  · subst tab
    exact stringBytes_short (by decide) (by decide) rest
  · exact stringBytes_control control rest
  · rw [Utf8.encode_cons, Utf8.encode_nil, List.append_nil]
    exact stringBytes_plains (isPlain_of_mem_encodeChar quote backslash (by omega)) rest

theorem stringBytes_escaped (cs : List Char) (rest : Bytes) :
    stringBytes (Utf8.encode (cs.flatMap escapeChar) ++ 0x22 :: rest) =
      .ok (Utf8.encode cs, rest) := by
  induction cs with
  | nil => rfl
  | cons c cs inductionHypothesis =>
      rw [List.flatMap_cons, Utf8.encode_append, List.append_assoc, stringBytes_escapeChar,
        inductionHypothesis]
      rfl

/-- A written string, of which the opening quote was read, reads back. -/
theorem string_escaped (s : String) (rest : Bytes) :
    string (Utf8.encode (s.toList.flatMap escapeChar) ++ 0x22 :: rest) = .ok (s, rest) := by
  simp [string, stringBytes_escaped, Utf8.decode_encode, bind, Except.bind]

end ShellBridge.Json.Scan
