import ShellBridge.Proofs.Text.Utf8
import ShellBridge.Json.Numeral

/-!
Reading written integers back.

Digits are gathered without loss while the number fits, and what follows must not look like a part
of the number.
-/

namespace ShellBridge.Json.Numeral

open Scan

/-- The digits end here. -/
def Stops (rest : Bytes) : Prop :=
  ∀ b ∈ rest.head?, isDigit b = false

theorem stops_cons {b : UInt8} (noDigit : isDigit b = false) (rest : Bytes) :
    Stops (b :: rest) := by
  intro c membership
  obtain rfl : b = c := Option.some.inj membership
  exact noDigit

/-- What follows is no part of a number: neither a digit nor a point nor an exponent. -/
def Ends (rest : Bytes) : Prop :=
  ∀ b ∈ rest.head?, isDigit b = false ∧ b ≠ 0x2E ∧ b ≠ 0x65 ∧ b ≠ 0x45

theorem ends_nil : Ends [] := by
  intro b membership
  cases membership

theorem Ends.stops {rest : Bytes} (ends : Ends rest) : Stops rest :=
  fun b membership => (ends b membership).1

theorem takeDigits_append {digits rest : Bytes} (all : ∀ b ∈ digits, isDigit b = true)
    (stops : Stops rest) : takeDigits (digits ++ rest) = (digits, rest) := by
  induction digits with
  | nil =>
      cases rest with
      | nil => rfl
      | cons b rest => simp [takeDigits, stops b rfl]
  | cons b digits inductionHypothesis =>
      have others := inductionHypothesis fun c membership =>
        all c (List.mem_cons_of_mem b membership)
      simp [takeDigits, all b List.mem_cons_self, others]

/-- The value of digits behind a number that was gathered before. -/
def valueBehind (significand : Nat) (digits : Bytes) : Nat :=
  digits.foldl (fun n d => n * 10 + digitValue d) significand

theorem le_valueBehind (significand : Nat) (digits : Bytes) :
    significand ≤ valueBehind significand digits := by
  induction digits generalizing significand with
  | nil => exact Nat.le_refl significand
  | cons d digits inductionHypothesis =>
      have further := inductionHypothesis (significand * 10 + digitValue d)
      simp only [valueBehind, List.foldl_cons] at further ⊢
      omega

theorem gather_lt {significand : Nat} (small : significand < significandBound) (digits : Bytes) :
    (gather significand digits).significand < significandBound := by
  fun_induction gather significand digits with
  | case1 significand => exact small
  | case2 significand d rest next fits inductionHypothesis => exact inductionHypothesis fits
  | case3 significand d rest next large => exact small

theorem omitted_gather_le (significand : Nat) (digits : Bytes) :
    (gather significand digits).omitted ≤ digits.length := by
  fun_induction gather significand digits with
  | case1 significand => exact Nat.le_refl 0
  | case2 significand d rest next fits inductionHypothesis =>
      exact Nat.le_succ_of_le inductionHypothesis
  | case3 significand d rest next large => exact Nat.le_refl _

/-- Nothing is omitted while the value fits. -/
theorem gather_eq {significand : Nat} {digits : Bytes}
    (fits : valueBehind significand digits < significandBound) :
    gather significand digits = ⟨valueBehind significand digits, 0⟩ := by
  induction digits generalizing significand with
  | nil => rfl
  | cons d digits inductionHypothesis =>
      have next : significand * 10 + digitValue d < significandBound :=
        Nat.lt_of_le_of_lt (le_valueBehind _ digits) fits
      rw [gather, if_pos next]
      exact inductionHypothesis fits

theorem encodeChar_digitChar : ∀ d < 10,
    Utf8.encodeChar (Nat.digitChar d) = [.ofNat (0x30 + d)] ∧ isDigit (.ofNat (0x30 + d)) = true ∧
      digitValue (.ofNat (0x30 + d)) = d ∧ (.ofNat (0x30 + d) = (0x30 : UInt8) → d = 0) := by
  decide

def digits (n : Nat) : Bytes :=
  Utf8.encode (natDigits n)

theorem digits_of_lt {n : Nat} (small : n < 10) : digits n = [.ofNat (0x30 + n)] := by
  rw [digits, natDigits, Nat.toDigits_of_lt_base small, Utf8.encode_cons,
    (encodeChar_digitChar n small).1, Utf8.encode_nil, List.append_nil]

theorem digits_of_le {n : Nat} (large : 10 ≤ n) :
    digits n = digits (n / 10) ++ [.ofNat (0x30 + n % 10)] := by
  rw [digits, natDigits, Nat.toDigits_of_base_le (by decide) large, Utf8.encode_append,
    Utf8.encode_cons, (encodeChar_digitChar (n % 10) (by omega)).1, Utf8.encode_nil,
    List.append_nil]
  rfl

theorem isDigit_of_mem_digits (n : Nat) : ∀ b ∈ digits n, isDigit b = true := by
  induction n using Nat.strongRecOn with
  | ind n inductionHypothesis =>
      by_cases small : n < 10
      · rw [digits_of_lt small]
        intro b membership
        rw [List.mem_singleton.mp membership]
        exact (encodeChar_digitChar n small).2.1
      · rw [digits_of_le (by omega)]
        intro b membership
        rcases List.mem_append.mp membership with front | last
        · exact inductionHypothesis (n / 10) (by omega) b front
        · rw [List.mem_singleton.mp last]
          exact (encodeChar_digitChar (n % 10) (by omega)).2.1

theorem valueBehind_digits (n : Nat) : valueBehind 0 (digits n) = n := by
  induction n using Nat.strongRecOn with
  | ind n inductionHypothesis =>
      by_cases small : n < 10
      · rw [digits_of_lt small]
        simpa [valueBehind] using (encodeChar_digitChar n small).2.2.1
      · have front := inductionHypothesis (n / 10) (by omega)
        have last := (encodeChar_digitChar (n % 10) (by omega)).2.2.1
        rw [digits_of_le (by omega), valueBehind, List.foldl_append]
        rw [valueBehind] at front
        rw [front, List.foldl_cons, last, List.foldl_nil]
        omega

/-- A positive number is written without a leading zero. -/
theorem digits_eq_cons {n : Nat} (positive : 0 < n) :
    ∃ b rest, digits n = b :: rest ∧ isDigit b = true ∧ b ≠ 0x30 := by
  induction n using Nat.strongRecOn with
  | ind n inductionHypothesis =>
      by_cases small : n < 10
      · obtain ⟨_, digit, _, zero⟩ := encodeChar_digitChar n small
        refine ⟨.ofNat (0x30 + n), [], digits_of_lt small, digit, ?_⟩
        intro equality
        have := zero equality
        omega
      · obtain ⟨b, rest, front, digit, different⟩ :=
          inductionHypothesis (n / 10) (by omega) (by omega)
        refine ⟨b, rest ++ [.ofNat (0x30 + n % 10)], ?_, digit, different⟩
        rw [digits_of_le (by omega), front, List.cons_append]

/-- Only zero is written with a leading zero. -/
theorem digits_starts (n : Nat) :
    ∃ b more, digits n = b :: more ∧ isDigit b = true ∧ (b = 0x30 → n = 0 ∧ more = []) := by
  cases n with
  | zero => exact ⟨0x30, [], rfl, rfl, fun _ => ⟨rfl, rfl⟩⟩
  | succ n =>
      obtain ⟨b, rest, written, digit, different⟩ := digits_eq_cons (Nat.succ_pos n)
      exact ⟨b, rest, written, digit, fun zero => absurd zero different⟩

theorem behindWhole_int {negative : Bool} {significand : Nat} {i : Integer} {rest : Bytes}
    (fits : integer? negative significand = some i) (ends : Ends rest) :
    behindWhole negative ⟨significand, 0⟩ rest = .ok (.int i, rest) := by
  cases rest with
  | nil => simp [behindWhole, fits]
  | cons b rest =>
      obtain ⟨_, noPoint, noSmall, noLarge⟩ := ends b rfl
      simp [behindWhole, fits, noPoint, noSmall, noLarge]

/-- The digits in front of a point, an exponent or the end are those of an integer without leading
zeros. -/
theorem unsigned_append {negative : Bool} {b : UInt8} {more rest : Bytes}
    (all : ∀ c ∈ b :: more, isDigit c = true) (leading : b = 0x30 → more = [])
    (stops : Stops rest) :
    unsigned negative (b :: more ++ rest) = behindWhole negative (gather 0 (b :: more)) rest := by
  have taken := takeDigits_append all stops
  rw [List.cons_append] at taken ⊢
  rw [unsigned.eq_def]
  by_cases zero : b = 0x30
  · subst zero
    obtain rfl := leading rfl
    cases rest with
    | nil => rfl
    | cons c rest =>
        simp only [List.nil_append, if_true, stops c rfl, Bool.false_eq_true, if_false]
        rfl
  · simp only [zero, if_false, all b List.mem_cons_self, if_true, taken]

/-- The digits of a number read back, with the sign in front of them. -/
theorem unsigned_digits {negative : Bool} {n : Nat} {i : Integer} {rest : Bytes}
    (bounded : n < significandBound) (fits : integer? negative n = some i) (ends : Ends rest) :
    unsigned negative (digits n ++ rest) = .ok (.int i, rest) := by
  obtain ⟨b, more, written, _, leading⟩ := digits_starts n
  have all := isDigit_of_mem_digits n
  have gathered : gather 0 (digits n) = ⟨n, 0⟩ := by
    have value := valueBehind_digits n
    rw [gather_eq (by rw [value]; exact bounded), value]
  rw [written] at all gathered ⊢
  rw [unsigned_append all (fun zero => (leading zero).2) ends.stops, gathered]
  exact behindWhole_int fits ends

theorem digits_ne_minus (n : Nat) (rest : Bytes) :
    ∀ tail, digits n ++ rest ≠ 0x2D :: tail := by
  intro tail equality
  obtain ⟨b, more, written, digit, _⟩ := digits_starts n
  rw [written] at equality
  rw [(List.cons.inj equality).1] at digit
  exact absurd digit (by decide)

theorem integer?_natural (n : Nat) (bound : (n : Int) < 0x10000000000000000)
    (least : -0x8000000000000000 ≤ (n : Int)) :
    integer? false n = some ⟨n, least, bound⟩ := by
  simp only [integer?, Bool.false_eq_true, if_false, dif_pos (And.intro least bound),
    Bool.false_and]

theorem integer?_negative {n : Nat} (positive : n ≠ 0) (least : -0x8000000000000000 ≤ -(n : Int))
    (bound : -(n : Int) < 0x10000000000000000) :
    integer? true n = some ⟨-n, least, bound⟩ := by
  simp only [integer?, if_true, dif_pos (And.intro least bound), Bool.true_and, beq_iff_eq,
    positive, if_false]

/-- An integer starts with its sign or a digit. -/
theorem int_starts (i : Integer) :
    ∃ b rest, Utf8.encode (Number.int i).chars = b :: rest ∧ (b = 0x2D ∨ isDigit b = true) := by
  rcases i with ⟨value, least, bound⟩
  cases value with
  | ofNat n =>
      obtain ⟨b, rest, written, digit, _⟩ := digits_starts n
      exact ⟨b, rest, written, .inr digit⟩
  | negSucc n => exact ⟨0x2D, digits (n + 1), rfl, .inl rfl⟩

/-- A written integer reads back. -/
theorem read_int (i : Integer) {rest : Bytes} (ends : Ends rest) :
    read (Utf8.encode (Number.int i).chars ++ rest) = .ok (.int i, rest) := by
  rcases i with ⟨value, least, bound⟩
  cases value with
  | ofNat n =>
      have written : Utf8.encode (Number.int ⟨.ofNat n, least, bound⟩).chars = digits n := rfl
      have small : n < significandBound := by
        have : (n : Int) < 0x10000000000000000 := bound
        unfold significandBound
        omega
      rw [written, read.eq_2 _ (digits_ne_minus n rest)]
      exact unsigned_digits small (integer?_natural n bound least) ends
  | negSucc n =>
      have written : Utf8.encode (Number.int ⟨.negSucc n, least, bound⟩).chars =
          0x2D :: digits (n + 1) := rfl
      have bounds : -0x8000000000000000 ≤ -((n + 1 : Nat) : Int) ∧
          -((n + 1 : Nat) : Int) < 0x10000000000000000 := ⟨least, bound⟩
      have small : n + 1 < significandBound := by
        unfold significandBound
        omega
      rw [written, List.cons_append, read]
      exact unsigned_digits small (integer?_negative (Nat.succ_ne_zero n) bounds.1 bounds.2) ends

end ShellBridge.Json.Numeral
