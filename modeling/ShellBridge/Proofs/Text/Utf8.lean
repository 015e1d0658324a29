import ShellBridge.Text.Utf8

/-!
Reading back what was written in UTF-8.

A character is written in one to four bytes, by the size of its number.  Each of the four forms
reads back as the character, whatever follows; and only these forms are read, so no text has two.
-/

namespace ShellBridge.Utf8

theorem toNat_ofNat {n : Nat} (small : n < 256) : (UInt8.ofNat n).toNat = n :=
  UInt8.toNat_ofNat_of_lt' small

/-- Characters are numbers below `0x110000` that are no surrogates. -/
theorem toNat_valid (c : Char) : c.toNat < 0xD800 ∨ (0xDFFF < c.toNat ∧ c.toNat < 0x110000) :=
  c.valid

theorem ofNat_eq {c : Char} {n : Nat} (value : n = c.toNat) : Char.ofNat n = c := by
  rw [value, Char.ofNat_toNat]

theorem isTail_iff {b : UInt8} : isTail b = true ↔ 0x80 ≤ b.toNat ∧ b.toNat ≤ 0xBF := by
  simp [isTail, UInt8.le_iff_toNat_le]

theorem isSecond_of_bounds {a b : UInt8} (tail : isTail b = true)
    (long : (a.toNat = 0xE0 → 0xA0 ≤ b.toNat) ∧ (a.toNat = 0xF0 → 0x90 ≤ b.toNat))
    (short : (a.toNat = 0xED → b.toNat ≤ 0x9F) ∧ (a.toNat = 0xF4 → b.toNat ≤ 0x8F)) :
    isSecond a b = true := by
  rw [isTail_iff] at tail
  simp only [isSecond, leastSecond, greatestSecond, Bool.and_eq_true, decide_eq_true_eq,
    UInt8.le_iff_toNat_le, ← UInt8.toNat_inj, apply_ite UInt8.toNat, UInt8.reduceToNat]
  constructor
  · split
    · omega
    · split <;> omega
  · split
    · omega
    · split <;> omega

section Forms

variable {a b d e : UInt8} (sound : Nat) (rest : Bytes)

theorem decodeFrom_one (small : a.toNat < 0x80) :
    decodeFrom sound (a :: rest) = (decodeFrom (sound + 1) rest).map (Char.ofNat a.toNat :: ·) := by
  rw [decodeFrom.eq_def]
  simp [UInt8.lt_iff_toNat_lt, small]

theorem decodeFrom_two (least : 0xC2 ≤ a.toNat) (greatest : a.toNat ≤ 0xDF)
    (tail : isTail b = true) :
    decodeFrom sound (a :: b :: rest) = (decodeFrom (sound + 2) rest).map (char2 a b :: ·) := by
  rw [decodeFrom.eq_def]
  simp [UInt8.lt_iff_toNat_lt, UInt8.le_iff_toNat_le, least, greatest, tail]
  omega

theorem decodeFrom_three (least : 0xE0 ≤ a.toNat) (greatest : a.toNat ≤ 0xEF)
    (second : isSecond a b = true) (tail : isTail d = true) :
    decodeFrom sound (a :: b :: d :: rest) =
      (decodeFrom (sound + 3) rest).map (char3 a b d :: ·) := by
  have above : ¬a.toNat < 0x80 ∧ ¬a.toNat ≤ 0xDF := by omega
  rw [decodeFrom.eq_def]
  simp [UInt8.lt_iff_toNat_lt, UInt8.le_iff_toNat_le, least, greatest, above, second, tail]

theorem decodeFrom_four (least : 0xF0 ≤ a.toNat) (greatest : a.toNat ≤ 0xF4)
    (second : isSecond a b = true) (tail : isTail d = true) (last : isTail e = true) :
    decodeFrom sound (a :: b :: d :: e :: rest) =
      (decodeFrom (sound + 4) rest).map (char4 a b d e :: ·) := by
  have above : ¬a.toNat < 0x80 ∧ ¬a.toNat ≤ 0xDF ∧ ¬a.toNat ≤ 0xEF := by omega
  rw [decodeFrom.eq_def]
  simp [UInt8.lt_iff_toNat_lt, UInt8.le_iff_toNat_le, least, greatest, above, second, tail, last]

end Forms

theorem decodeFrom_encodeChar (sound : Nat) (c : Char) (rest : Bytes) :
    decodeFrom sound (encodeChar c ++ rest) =
      (decodeFrom (sound + (encodeChar c).length) rest).map (c :: ·) := by
  have valid := toNat_valid c
  unfold encodeChar
  simp only
  split
  next one =>
    have a := toNat_ofNat (show c.toNat < 256 by omega)
    refine (decodeFrom_one sound rest (by omega)).trans ?_
    rw [a, Char.ofNat_toNat, List.length_singleton]
  next one =>
    split
    next two =>
      have a := toNat_ofNat (show 0xC0 + c.toNat / 64 < 256 by omega)
      have b := toNat_ofNat (show 0x80 + c.toNat % 64 < 256 by omega)
      refine (decodeFrom_two sound rest (by omega) (by omega)
        (isTail_iff.mpr (by omega))).trans ?_
      rw [char2, ofNat_eq (c := c) (by omega)]
      rfl
    next two =>
      split
      next three =>
        have a := toNat_ofNat (show 0xE0 + c.toNat / 4096 < 256 by omega)
        have b := toNat_ofNat (show 0x80 + c.toNat / 64 % 64 < 256 by omega)
        have d := toNat_ofNat (show 0x80 + c.toNat % 64 < 256 by omega)
        refine (decodeFrom_three sound rest (by omega) (by omega)
          (isSecond_of_bounds (isTail_iff.mpr (by omega)) (by omega) (by omega))
          (isTail_iff.mpr (by omega))).trans ?_
        rw [char3, ofNat_eq (c := c) (by omega)]
        rfl
      next three =>
        have a := toNat_ofNat (show 0xF0 + c.toNat / 262144 < 256 by omega)
        have b := toNat_ofNat (show 0x80 + c.toNat / 4096 % 64 < 256 by omega)
        have d := toNat_ofNat (show 0x80 + c.toNat / 64 % 64 < 256 by omega)
        have e := toNat_ofNat (show 0x80 + c.toNat % 64 < 256 by omega)
        refine (decodeFrom_four sound rest (by omega) (by omega)
          (isSecond_of_bounds (isTail_iff.mpr (by omega)) (by omega) (by omega))
          (isTail_iff.mpr (by omega)) (isTail_iff.mpr (by omega))).trans ?_
        rw [char4, ofNat_eq (c := c) (by omega)]
        rfl

theorem decodeFrom_encode (sound : Nat) (cs : List Char) :
    decodeFrom sound (encode cs) = .ok cs := by
  induction cs generalizing sound with
  | nil => rfl
  | cons c rest inductionHypothesis =>
      rw [encode_cons, decodeFrom_encodeChar, inductionHypothesis]
      rfl

/-- Every text reads back. -/
theorem decode_encode (cs : List Char) : decode (encode cs) = .ok cs :=
  decodeFrom_encode 0 cs

/-! ### Only what was written is read -/

theorem bounds_of_isSecond {a b : UInt8} (second : isSecond a b = true) :
    isTail b = true ∧ (a.toNat = 0xE0 → 0xA0 ≤ b.toNat) ∧ (a.toNat = 0xF0 → 0x90 ≤ b.toNat) ∧
      (a.toNat = 0xED → b.toNat ≤ 0x9F) ∧ (a.toNat = 0xF4 → b.toNat ≤ 0x8F) := by
  rw [isTail_iff]
  simp only [isSecond, leastSecond, greatestSecond, Bool.and_eq_true, decide_eq_true_eq,
    UInt8.le_iff_toNat_le, ← UInt8.toNat_inj, apply_ite UInt8.toNat, UInt8.reduceToNat] at second
  obtain ⟨least, greatest⟩ := second
  have lower : (a.toNat = 0xE0 → 0xA0 ≤ b.toNat) ∧ (a.toNat = 0xF0 → 0x90 ≤ b.toNat) ∧
      0x80 ≤ b.toNat := by
    split at least
    · omega
    · split at least <;> omega
  have upper : (a.toNat = 0xED → b.toNat ≤ 0x9F) ∧ (a.toNat = 0xF4 → b.toNat ≤ 0x8F) ∧
      b.toNat ≤ 0xBF := by
    split at greatest
    · omega
    · split at greatest <;> omega
  omega

theorem toNat_ofNat_of_valid {n : Nat} (valid : n.isValidChar) : (Char.ofNat n).toNat = n := by
  rw [Char.ofNat, dif_pos valid]
  exact UInt32.toNat_ofNatLT

section Forms

variable {a b d e : UInt8}

theorem byte_eq {b : UInt8} {n : Nat} (value : n = b.toNat) : UInt8.ofNat n = b := by
  rw [value, UInt8.ofNat_toNat]

theorem encodeChar_one (small : a.toNat < 0x80) : encodeChar (Char.ofNat a.toNat) = [a] := by
  have value := toNat_ofNat_of_valid (n := a.toNat) (.inl (by omega))
  rw [encodeChar, value]
  simp only [if_pos small, UInt8.ofNat_toNat]

theorem encodeChar_two (least : 0xC2 ≤ a.toNat) (greatest : a.toNat ≤ 0xDF)
    (tail : isTail b = true) : encodeChar (char2 a b) = [a, b] := by
  rw [isTail_iff] at tail
  have value := toNat_ofNat_of_valid
    (n := (a.toNat - 0xC0) * 64 + (b.toNat - 0x80)) (.inl (by omega))
  rw [encodeChar, char2, value]
  rw [if_neg (by omega), if_pos (by omega), byte_eq (b := a) (by omega),
    byte_eq (b := b) (by omega)]

theorem encodeChar_three (least : 0xE0 ≤ a.toNat) (greatest : a.toNat ≤ 0xEF)
    (second : isSecond a b = true) (tail : isTail d = true) :
    encodeChar (char3 a b d) = [a, b, d] := by
  obtain ⟨middle, long, _, short, _⟩ := bounds_of_isSecond second
  rw [isTail_iff] at middle tail
  have value := toNat_ofNat_of_valid
    (n := (a.toNat - 0xE0) * 4096 + (b.toNat - 0x80) * 64 + (d.toNat - 0x80))
    (by unfold Nat.isValidChar; omega)
  rw [encodeChar, char3, value]
  rw [if_neg (by omega), if_neg (by omega), if_pos (by omega), byte_eq (b := a) (by omega),
    byte_eq (b := b) (by omega), byte_eq (b := d) (by omega)]

theorem encodeChar_four (least : 0xF0 ≤ a.toNat) (greatest : a.toNat ≤ 0xF4)
    (second : isSecond a b = true) (tail : isTail d = true) (last : isTail e = true) :
    encodeChar (char4 a b d e) = [a, b, d, e] := by
  obtain ⟨middle, _, long, _, short⟩ := bounds_of_isSecond second
  rw [isTail_iff] at middle tail last
  have value := toNat_ofNat_of_valid
    (n := (a.toNat - 0xF0) * 262144 + (b.toNat - 0x80) * 4096 + (d.toNat - 0x80) * 64 +
      (e.toNat - 0x80)) (by unfold Nat.isValidChar; omega)
  rw [encodeChar, char4, value]
  rw [if_neg (by omega), if_neg (by omega), if_neg (by omega), byte_eq (b := a) (by omega),
    byte_eq (b := b) (by omega), byte_eq (b := d) (by omega), byte_eq (b := e) (by omega)]

end Forms

theorem map_cons_eq_ok {read : Except Refusal (List Char)} {c : Char} {cs : List Char}
    (equality : read.map (c :: ·) = .ok cs) : ∃ others, read = .ok others ∧ cs = c :: others := by
  cases read with
  | ok others =>
      cases equality
      exact ⟨others, rfl, rfl⟩
  | error refusal => cases equality

theorem encode_of_decodeFrom {sound : Nat} {bytes : Bytes} {cs : List Char}
    (read : decodeFrom sound bytes = .ok cs) : encode cs = bytes := by
  fun_induction decodeFrom sound bytes generalizing cs with
  | case1 =>
      cases read
      rfl
  | case2 sound a rest small inductionHypothesis =>
      obtain ⟨others, behind, rfl⟩ := map_cons_eq_ok read
      rw [encode_cons, encodeChar_one (UInt8.lt_iff_toNat_lt.mp small), inductionHypothesis behind]
      rfl
  | case4 sound a _ two b rest tail inductionHypothesis =>
      obtain ⟨others, behind, rfl⟩ := map_cons_eq_ok read
      simp only [Bool.and_eq_true, decide_eq_true_eq, UInt8.le_iff_toNat_le] at two
      rw [encode_cons, encodeChar_two two.1 two.2 tail, inductionHypothesis behind]
      rfl
  | case9 sound a _ _ three b second d rest tail inductionHypothesis =>
      obtain ⟨others, behind, rfl⟩ := map_cons_eq_ok read
      simp only [Bool.and_eq_true, decide_eq_true_eq, UInt8.le_iff_toNat_le] at three
      rw [encode_cons, encodeChar_three three.1 three.2 (by simpa using second) tail,
        inductionHypothesis behind]
      rfl
  | case16 sound a _ _ _ four b second d tail e rest last inductionHypothesis =>
      obtain ⟨others, behind, rfl⟩ := map_cons_eq_ok read
      simp only [Bool.and_eq_true, decide_eq_true_eq, UInt8.le_iff_toNat_le] at four
      rw [encode_cons, encodeChar_four four.1 four.2 (by simpa using second) (by simpa using tail)
        last, inductionHypothesis behind]
      rfl
  | _ => cases read

/-- Only what was written is read. -/
theorem encode_of_decode {bytes : Bytes} {cs : List Char} (read : decode bytes = .ok cs) :
    encode cs = bytes :=
  encode_of_decodeFrom read

end ShellBridge.Utf8

