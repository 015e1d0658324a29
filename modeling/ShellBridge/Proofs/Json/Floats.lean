import ShellBridge.Proofs.Json.Scaling
import ShellBridge.Proofs.Json.Steps

/-!
Floats in texts.

The text of every finite float is read as some float, both in the positional and in the scientific
form.
-/

namespace ShellBridge.Json.Numeral

open Scan

/-! ### Digits -/

theorem encodeChar_of_isDigit {c : Char} (digit : c.isDigit = true) :
    Utf8.encodeChar c = [.ofNat c.toNat] ∧ isDigit (.ofNat c.toNat) = true ∧
      ((.ofNat c.toNat : UInt8) = 0x30 → c = '0') := by
  have bounds : 0x30 ≤ c.toNat ∧ c.toNat ≤ 0x39 := Char.isDigit_iff_toNat.mp digit
  have value : (UInt8.ofNat c.toNat).toNat = c.toNat := Utf8.toNat_ofNat (by omega)
  refine ⟨by rw [Utf8.encodeChar, if_pos (by omega)], ?_, ?_⟩
  · simp only [isDigit, Bool.and_eq_true, decide_eq_true_eq, UInt8.le_iff_toNat_le, value]
    exact bounds
  · intro zero
    rw [zero] at value
    rw [← Char.ofNat_toNat c, ← value]
    rfl

section Digits

variable {cs : List Char} (all : ∀ c ∈ cs, c.isDigit = true)
include all

theorem encode_digits : Utf8.encode cs = cs.map fun c => .ofNat c.toNat := by
  induction cs with
  | nil => rfl
  | cons c cs inductionHypothesis =>
      have others := inductionHypothesis fun c' membership =>
        all c' (List.mem_cons_of_mem c membership)
      rw [Utf8.encode_cons, (encodeChar_of_isDigit (all c List.mem_cons_self)).1, others]
      rfl

theorem isDigit_of_mem_encode : ∀ b ∈ Utf8.encode cs, isDigit b = true := by
  intro b membership
  rw [encode_digits all] at membership
  obtain ⟨c, inside, rfl⟩ := List.mem_map.mp membership
  exact (encodeChar_of_isDigit (all c inside)).2.1

theorem length_encode : (Utf8.encode cs).length = cs.length := by
  rw [encode_digits all, List.length_map]

theorem encode_ne_nil (nonempty : cs ≠ []) : Utf8.encode cs ≠ [] := by
  rw [encode_digits all]
  exact List.map_eq_nil_iff.not.mpr nonempty

end Digits

theorem isDigit_of_mem_natDigits (n : Nat) : ∀ c ∈ natDigits n, c.isDigit = true :=
  fun _ membership => Nat.isDigit_of_mem_toDigits (by decide) (by decide) membership

theorem natDigits_starts (n : Nat) :
    ∃ c cs, natDigits n = c :: cs ∧ (c = '0' → n = 0) := by
  obtain ⟨c, cs, given⟩ := List.exists_cons_of_ne_nil (Nat.toDigits_ne_nil (n := n) (b := 10))
  refine ⟨c, cs, given, ?_⟩
  rintro rfl
  obtain ⟨b, more, written, _, leading⟩ := digits_starts n
  have first : digits n = 0x30 :: Utf8.encode cs := by
    rw [digits, natDigits, given]
    rfl
  rw [first] at written
  exact (leading (List.cons.inj written).1.symm).1

theorem gather_digit {b : UInt8} (digit : isDigit b = true) (more : Bytes) :
    gather 0 (b :: more) = gather (digitValue b) more := by
  have bounds := isDigit_iff.mp digit
  have fits : digitValue b < significandBound := by
    unfold digitValue significandBound
    omega
  simp only [gather, Nat.zero_mul, Nat.zero_add, fits, if_true]

/-! ### The positional form -/

theorem behindWhole_point {negative : Bool} {g : Gathered} {part rest : Bytes}
    (all : ∀ b ∈ part, isDigit b = true) (nonempty : part ≠ []) (stops : Stops rest) :
    behindWhole negative g (0x2E :: (part ++ rest)) =
      floatTail negative (gather g.significand part).significand
        ((g.omitted : Int) - (part.length - (gather g.significand part).omitted : Nat)) rest := by
  cases part with
  | nil => exact absurd rfl nonempty
  | cons b part =>
      show fraction negative g.significand g.omitted _ = _
      simp only [fraction, takeDigits_append all stops]

theorem floatTail_of_ends {negative : Bool} {significand : Nat} {shift : Int} {rest : Bytes}
    (ends : Ends rest) : floatTail negative significand shift rest =
      orOutOfRange negative (float? significand shift) rest := by
  cases rest with
  | nil => rfl
  | cons b rest =>
      obtain ⟨_, _, noSmall, noLarge⟩ := ends b rfl
      simp [floatTail, noSmall, noLarge]

/-- A fraction behind a point reads back if few digits in front of it were omitted. -/
theorem exists_behindWhole_point {g : Gathered} (fits : g.significand < significandBound)
    (few : g.omitted ≤ 16) {part : Bytes} (all : ∀ b ∈ part, isDigit b = true)
    (nonempty : part ≠ []) :
    ∃ y, ∀ (negative : Bool) {rest : Bytes}, Ends rest →
      behindWhole negative g (0x2E :: (part ++ rest)) = .ok (signed negative y, rest) := by
  have le : (g.omitted : Int) - (part.length - (gather g.significand part).omitted : Nat) ≤ 16 := by
    omega
  obtain ⟨y, number⟩ := exists_float?_of_le (gather_lt fits part) le
  refine ⟨y, ?_⟩
  intro negative rest ends
  rw [behindWhole_point all nonempty ends.stops, floatTail_of_ends ends, number]
  rfl

/-- A number with digits behind the point, and few digits in front of it. -/
theorem exists_unsigned_point {c : Char} {cs part : List Char}
    (whole : ∀ c' ∈ c :: cs, c'.isDigit = true) (leading : c = '0' → cs = [])
    (few : cs.length < 16) (all : ∀ c' ∈ part, c'.isDigit = true) (nonempty : part ≠ []) :
    ∃ y, ∀ (negative : Bool) {rest : Bytes}, Ends rest →
      unsigned negative (Utf8.encode (c :: cs ++ '.' :: part) ++ rest) =
        .ok (signed negative y, rest) := by
  obtain ⟨first, _, zero⟩ := encodeChar_of_isDigit (whole c List.mem_cons_self)
  have written : Utf8.encode (c :: cs) = .ofNat c.toNat :: Utf8.encode cs := by
    rw [Utf8.encode_cons, first, List.singleton_append]
  have omitted : (gather 0 (Utf8.encode (c :: cs))).omitted ≤ 16 := by
    have le := omitted_gather_le 0 (Utf8.encode (c :: cs))
    rw [length_encode whole, List.length_cons] at le
    omega
  obtain ⟨y, fraction⟩ := exists_behindWhole_point (gather_lt (by decide) _) omitted
    (isDigit_of_mem_encode all) (encode_ne_nil all nonempty)
  refine ⟨y, ?_⟩
  intro negative rest ends
  have text : Utf8.encode (c :: cs ++ '.' :: part) ++ rest =
      Utf8.encode (c :: cs) ++ 0x2E :: (Utf8.encode part ++ rest) := by
    rw [Utf8.encode_append, List.append_assoc]
    rfl
  have leadingBytes : (.ofNat c.toNat : UInt8) = 0x30 → Utf8.encode cs = [] := by
    intro equality
    rw [leading (zero equality)]
    rfl
  have wholeBytes := isDigit_of_mem_encode whole
  have read := fraction negative ends
  rw [written] at wholeBytes read
  rw [text, written, unsigned_append wholeBytes leadingBytes (stops_cons rfl _), read]

/-- The positional form reads back. -/
theorem exists_unsigned_positional {n : Nat} {magnitude : Int} (bounded : magnitude < 16)
    (zero : n = 0 → magnitude = 0) :
    ∃ y, ∀ (negative : Bool) {rest : Bytes}, Ends rest →
      unsigned negative
          (Utf8.encode (FloatLayout.positional (natDigits n) magnitude) ++ rest) =
        .ok (signed negative y, rest) := by
  have all := isDigit_of_mem_natDigits n
  have zeros : ∀ k, ∀ c ∈ List.replicate k '0', c.isDigit = true := by
    intro k c membership
    rw [List.eq_of_mem_replicate membership]
    rfl
  cases magnitude with
  | ofNat e =>
      obtain ⟨c, cs, given, leading⟩ := natDigits_starts n
      rw [given] at all
      have small : e < 16 := Int.ofNat_lt.mp bounded
      rw [given, FloatLayout.positional]
      simp only [List.take_succ_cons, List.drop_succ_cons, List.cons_append, List.length_cons]
      rw [← List.cons_append]
      apply exists_unsigned_point
      · intro c' membership
        rcases List.mem_cons.mp membership with rfl | membership
        · exact all c' List.mem_cons_self
        · rcases List.mem_append.mp membership with inside | padding
          · exact all c' (List.mem_cons_of_mem c (List.mem_of_mem_take inside))
          · exact zeros _ c' padding
      · intro first
        have single : (e : Int) = 0 := zero (leading first)
        obtain rfl : e = 0 := by omega
        simp
      · simp only [List.length_append, List.length_take, List.length_replicate]
        omega
      · intro c' membership
        split at membership
        · exact zeros 1 c' membership
        · exact all c' (List.mem_cons_of_mem c (List.mem_of_mem_drop membership))
      · split
        · exact List.cons_ne_nil _ _
        · next more =>
            rintro empty
            rw [empty] at more
            exact more rfl
  | negSucc e =>
      show ∃ y, ∀ (negative : Bool) {rest : Bytes}, Ends rest → unsigned negative
        (Utf8.encode (['0'] ++ '.' :: (List.replicate e '0' ++ natDigits n)) ++ rest) =
          .ok (signed negative y, rest)
      apply exists_unsigned_point
      · intro c' membership
        exact zeros 1 c' membership
      · exact fun _ => rfl
      · decide
      · intro c' membership
        rcases List.mem_append.mp membership with padding | inside
        · exact zeros e c' padding
        · exact all c' inside
      · intro empty
        exact Nat.toDigits_ne_nil (List.append_eq_nil_iff.mp empty).2

/-! ### The scientific form -/

/-- The digits of the scientific form are gathered on both sides of its point. -/
theorem unsigned_scientific {c : Char} {cs : List Char} (all : ∀ c' ∈ c :: cs, c'.isDigit = true)
    (negative : Bool) (rest : Bytes) :
    unsigned negative (Utf8.encode (c :: if cs.isEmpty then [] else '.' :: cs) ++ 0x65 :: rest) =
      exponent negative (gather 0 (Utf8.encode (c :: cs))).significand
        ((gather 0 (Utf8.encode (c :: cs))).omitted - cs.length) rest := by
  obtain ⟨first, digit, _⟩ := encodeChar_of_isDigit (all c List.mem_cons_self)
  have single : ∀ b ∈ ([.ofNat c.toNat] : Bytes), isDigit b = true := by
    intro b membership
    rw [List.mem_singleton.mp membership]
    exact digit
  cases cs with
  | nil =>
      have written : Utf8.encode [c] = [.ofNat c.toNat] := by
        rw [Utf8.encode_cons, first]
        rfl
      rw [List.isEmpty_nil, if_pos rfl, written,
        unsigned_append single (fun _ => rfl) (stops_cons rfl _), gather_digit digit]
      rfl
  | cons c' cs =>
      have others : ∀ d ∈ c' :: cs, d.isDigit = true := fun d membership =>
        all d (List.mem_cons_of_mem c membership)
      have nonempty := encode_ne_nil others (List.cons_ne_nil c' cs)
      have text : Utf8.encode (c :: '.' :: c' :: cs) ++ 0x65 :: rest =
          [.ofNat c.toNat] ++ 0x2E :: (Utf8.encode (c' :: cs) ++ 0x65 :: rest) := by
        rw [Utf8.encode_cons, first]
        rfl
      have gathered : gather 0 (Utf8.encode (c :: c' :: cs)) =
          gather (digitValue (.ofNat c.toNat)) (Utf8.encode (c' :: cs)) := by
        rw [Utf8.encode_cons, first]
        exact gather_digit digit _
      have omitted := omitted_gather_le (digitValue (.ofNat c.toNat)) (Utf8.encode (c' :: cs))
      rw [length_encode others] at omitted
      rw [List.isEmpty_cons, if_neg Bool.false_ne_true, text,
        unsigned_append single (fun _ => rfl) (stops_cons rfl _), gather_digit digit, gathered,
        behindWhole_point (isDigit_of_mem_encode others) nonempty (stops_cons rfl _),
        length_encode others]
      have front : gather (digitValue (.ofNat c.toNat)) [] = ⟨digitValue (.ofNat c.toNat), 0⟩ := rfl
      have shift : ((0 : Nat) : Int) - ((c' :: cs).length - (gather (digitValue (.ofNat c.toNat))
          (Utf8.encode (c' :: cs))).omitted : Nat) = (gather (digitValue (.ofNat c.toNat))
          (Utf8.encode (c' :: cs))).omitted - (c' :: cs).length := by
        omega
      rw [front, shift]
      rfl

/-- A written exponent is read, and computed unless it is too far away. -/
theorem exponent_intDigits {negative : Bool} {significand : Nat} {shift : Int} (e : Int)
    {rest : Bytes} (stops : Stops rest) :
    exponent negative significand shift
        (Utf8.encode (if e < 0 then intDigits e else '+' :: intDigits e) ++ rest) =
      if e.natAbs < exponentBound then orOutOfRange negative (float? significand (shift + e)) rest
      else orOutOfRange negative (farFloat? significand (e < 0)) rest := by
  have behind : ∀ (sign : UInt8) (k : Nat), sign = 0x2B ∨ sign = 0x2D →
      exponent negative significand shift (sign :: (digits k ++ rest)) =
        if k < exponentBound then
          orOutOfRange negative
            (float? significand (if sign = 0x2D then shift - k else shift + k)) rest
        else orOutOfRange negative (farFloat? significand (sign = 0x2D)) rest := by
    intro sign k either
    obtain ⟨b, more, written, digit, _⟩ := digits_starts k
    have taken := takeDigits_append (isDigit_of_mem_digits k) stops
    have value : natValue (digits k) = k := valueBehind_digits k
    rw [written, List.cons_append] at taken
    rw [written] at value
    rw [written, List.cons_append]
    rcases either with rfl | rfl
    · simp only [exponent, digit, if_true, taken, value, Bool.false_eq_true, if_false]
      rfl
    · simp only [exponent, digit, if_true, taken, value, decide_true]
  cases e with
  | ofNat k =>
      have least : ¬ Int.ofNat k < 0 := Int.not_lt.mpr (Int.natCast_nonneg k)
      rw [if_neg least, decide_eq_false least]
      exact behind 0x2B k (.inl rfl)
  | negSucc k =>
      rw [if_pos (Int.negSucc_lt_zero k), decide_eq_true (Int.negSucc_lt_zero k)]
      exact behind 0x2D (k + 1) (.inr rfl)

/-- An exponent that is not too great reads back. -/
theorem exists_exponent {significand : Nat} {shift e : Int} (near : e < exponentBound)
    {y : Binary64} (number : float? significand (shift + e) = some y) :
    ∃ y, ∀ (negative : Bool) {rest : Bytes}, Ends rest →
      exponent negative significand shift
          (Utf8.encode (if e < 0 then intDigits e else '+' :: intDigits e) ++ rest) =
        .ok (signed negative y, rest) := by
  by_cases small : e.natAbs < exponentBound
  · refine ⟨y, ?_⟩
    intro negative rest ends
    rw [exponent_intDigits e ends.stops, if_pos small, number]
    rfl
  · have far : e < 0 := by omega
    refine ⟨.zero false, ?_⟩
    intro negative rest ends
    rw [exponent_intDigits e ends.stops, if_neg small, farFloat?, decide_eq_true far, Bool.or_true,
      if_pos rfl]
    rfl

/-- The scientific form of a finite number reads back. -/
theorem exists_unsigned_scientific {x : Binary64} (finite : x.IsFinite)
    (nonzero : x.shortest.coefficient ≠ 0) :
    ∃ y, ∀ (negative : Bool) {rest : Bytes}, Ends rest →
      unsigned negative (Utf8.encode
          (FloatLayout.scientific x.shortest.digits x.shortest.magnitude) ++ rest) =
        .ok (signed negative y, rest) := by
  obtain ⟨z, number⟩ := exists_float?_shortest finite
  have magnitude_le := magnitude_shortest_le finite nonzero
  have near : x.shortest.magnitude < exponentBound := by
    unfold exponentBound
    unfold greatestPower at magnitude_le
    omega
  have all := isDigit_of_mem_natDigits x.shortest.coefficient
  obtain ⟨c, cs, given, _⟩ := natDigits_starts x.shortest.coefficient
  have given' : x.shortest.digits = c :: cs := given
  have bytes : digits x.shortest.coefficient = Utf8.encode (c :: cs) := by rw [digits, given]
  have sum : x.shortest.exponent + (gather 0 (digits x.shortest.coefficient)).omitted =
      ((gather 0 (Utf8.encode (c :: cs))).omitted - cs.length) + x.shortest.magnitude := by
    rw [bytes, Decimal.magnitude, given', List.length_cons]
    omega
  rw [sum, bytes] at number
  obtain ⟨y, exponent⟩ := exists_exponent near number
  rw [given] at all
  refine ⟨y, ?_⟩
  intro negative rest ends
  have text : Utf8.encode (FloatLayout.scientific x.shortest.digits x.shortest.magnitude) ++ rest =
      Utf8.encode (c :: if cs.isEmpty then [] else '.' :: cs) ++ 0x65 ::
        (Utf8.encode (if x.shortest.magnitude < 0 then intDigits x.shortest.magnitude
          else '+' :: intDigits x.shortest.magnitude) ++ rest) := by
    rw [given', FloatLayout.scientific]
    simp only [List.drop_one, List.tail_cons]
    rw [Utf8.encode_append, List.append_assoc]
    rfl
  rw [text, unsigned_scientific all, exponent negative ends]

/-! ### Both forms -/

/-- A number behind its sign starts with a digit. -/
theorem starts_of_unsigned {negative : Bool} {input : Bytes} {read : Number × Bytes}
    (accepted : unsigned negative input = .ok read) :
    ∃ b tail, input = b :: tail ∧ isDigit b = true := by
  cases input with
  | nil => cases accepted
  | cons b tail =>
      refine ⟨b, tail, rfl, ?_⟩
      by_contra noDigit
      have different : b ≠ 0x30 := by
        rintro rfl
        exact noDigit rfl
      rw [unsigned.eq_def] at accepted
      simp only [different, if_false, noDigit] at accepted
      cases accepted

/-- The text of a finite float is read as a float, wherever it stands. -/
theorem exists_read_float {x : Binary64} (finite : x.IsFinite) :
    (∃ b tail, Utf8.encode (Number.float x).chars = b :: tail ∧ (b = 0x2D ∨ isDigit b = true)) ∧
      ∃ y, ∀ {rest : Bytes}, Ends rest →
        read (Utf8.encode (Number.float x).chars ++ rest) = .ok (.float y, rest) := by
  obtain ⟨body, chars, y, reads⟩ : ∃ body,
      (Number.float x).chars = (if x.negative then '-' :: body else body) ∧
      ∃ y, ∀ (negative : Bool) {rest : Bytes}, Ends rest →
        unsigned negative (Utf8.encode body ++ rest) = .ok (signed negative y, rest) := by
    refine ⟨_, rfl, ?_⟩
    have zero : x.shortest.coefficient = 0 → x.shortest.magnitude = 0 := by
      intro none
      rw [Binary64.shortest_eq_zero none]
      rfl
    split
    · next small => exact exists_unsigned_positional small.2 zero
    · next large =>
        apply exists_unsigned_scientific finite
        intro none
        rw [zero none] at large
        exact large (by decide)
  obtain ⟨b, tail, starts, digit⟩ := starts_of_unsigned (reads false ends_nil)
  rw [List.append_nil] at starts
  rw [chars]
  cases sign : x.negative with
  | true =>
      refine ⟨⟨0x2D, Utf8.encode body, rfl, .inl rfl⟩, y.negate, ?_⟩
      intro rest ends
      exact reads true ends
  | false =>
      refine ⟨⟨b, tail, starts, .inr digit⟩, y, ?_⟩
      intro rest ends
      have noSign : ∀ more, Utf8.encode body ++ rest ≠ 0x2D :: more := by
        intro more equality
        rw [starts, List.cons_append] at equality
        rw [(List.cons.inj equality).1] at digit
        exact absurd digit (by decide)
      rw [if_neg Bool.false_ne_true, read.eq_2 _ noSign]
      exact reads false ends

/-- The float that the text of a float is read as: it may differ in the last place. -/
def reread (x : Binary64) : Binary64 :=
  match read (Utf8.encode (Number.float x).chars) with
  | .ok (.float y, _) => y
  | _ => x

theorem read_float {x : Binary64} (finite : x.IsFinite) {rest : Bytes} (ends : Ends rest) :
    read (Utf8.encode (Number.float x).chars ++ rest) = .ok (.float (reread x), rest) := by
  obtain ⟨_, y, reads⟩ := exists_read_float finite
  have alone := reads ends_nil
  rw [List.append_nil] at alone
  rw [reads ends, reread, alone]

end ShellBridge.Json.Numeral
