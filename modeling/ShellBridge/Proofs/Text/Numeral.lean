import Mathlib.Tactic.Ring
import Mathlib.Tactic.SplitIfs
import ShellBridge.Text.Numeral

/-!
Numbers in digits.

The digits of a number read back, whatever the radix, and a numeral is bounded by its length.
-/

namespace ShellBridge.Text

/-- The number that digits denote behind those of another number. -/
def numeralFrom? (radix : Nat) (digit? : Char → Option Nat) (n : Nat) (cs : List Char) :
    Option Nat :=
  cs.foldlM (fun n c => (digit? c).map (radix * n + ·)) n

variable {radix : Nat} {digit? : Char → Option Nat}

@[simp] theorem numeralFrom?_nil (n : Nat) : numeralFrom? radix digit? n [] = some n := rfl

theorem numeralFrom?_cons (n : Nat) (c : Char) (cs : List Char) :
    numeralFrom? radix digit? n (c :: cs) =
      (digit? c).bind fun d => numeralFrom? radix digit? (radix * n + d) cs := by
  unfold numeralFrom?
  rw [List.foldlM_cons]
  cases digit? c <;> rfl

theorem numeralFrom?_append (n : Nat) (cs ds : List Char) :
    numeralFrom? radix digit? n (cs ++ ds) =
      (numeralFrom? radix digit? n cs).bind fun m => numeralFrom? radix digit? m ds :=
  List.foldlM_append

theorem numeral?_eq_from {cs : List Char} (digits : cs ≠ []) :
    numeral? radix digit? cs = numeralFrom? radix digit? 0 cs := by
  cases cs with
  | nil => exact absurd rfl digits
  | cons c cs => rfl

/-- The number stays as it is or grows with every digit. -/
theorem le_of_numeralFrom? (positive : 0 < radix) {n m : Nat} {cs : List Char}
    (read : numeralFrom? radix digit? n cs = some m) : n ≤ m := by
  induction cs generalizing n with
  | nil => exact Nat.le_of_eq (Option.some.inj read)
  | cons c cs inductionHypothesis =>
      rw [numeralFrom?_cons] at read
      obtain ⟨d, _, behind⟩ := Option.bind_eq_some_iff.mp read
      calc n ≤ radix * n := Nat.le_mul_of_pos_left n positive
        _ ≤ radix * n + d := Nat.le_add_right _ d
        _ ≤ m := inductionHypothesis behind

theorem digits_of_numeralFrom? {n m : Nat} {cs : List Char}
    (read : numeralFrom? radix digit? n cs = some m) : ∀ c ∈ cs, (digit? c).isSome := by
  induction cs generalizing n with
  | nil => exact fun c membership => absurd membership List.not_mem_nil
  | cons c cs inductionHypothesis =>
      rw [numeralFrom?_cons] at read
      obtain ⟨d, digit, behind⟩ := Option.bind_eq_some_iff.mp read
      exact List.forall_mem_cons.mpr
        ⟨Option.isSome_of_eq_some digit, inductionHypothesis behind⟩

theorem exists_numeralFrom? (radix : Nat) {cs : List Char}
    (digits : ∀ c ∈ cs, (digit? c).isSome) (n : Nat) :
    ∃ m, numeralFrom? radix digit? n cs = some m := by
  induction cs generalizing n with
  | nil => exact ⟨n, rfl⟩
  | cons c cs inductionHypothesis =>
      obtain ⟨first, behind⟩ := List.forall_mem_cons.mp digits
      obtain ⟨d, digit⟩ := Option.isSome_iff_exists.mp first
      obtain ⟨m, read⟩ := inductionHypothesis behind (radix * n + d)
      refine ⟨m, ?_⟩
      rw [numeralFrom?_cons, digit]
      exact read

theorem lt_of_numeralFrom? (digits : ∀ c d, digit? c = some d → d < radix) {n m bound : Nat}
    {cs : List Char} (read : numeralFrom? radix digit? n cs = some m) (small : n < bound) :
    m < bound * radix ^ cs.length := by
  induction cs generalizing n bound with
  | nil =>
      cases read
      simpa using small
  | cons c cs inductionHypothesis =>
      rw [numeralFrom?_cons] at read
      obtain ⟨d, digit, behind⟩ := Option.bind_eq_some_iff.mp read
      have next : radix * n + d < bound * radix := by
        calc radix * n + d < radix * n + radix := Nat.add_lt_add_left (digits c d digit) _
          _ = (n + 1) * radix := by ring
          _ ≤ bound * radix := Nat.mul_le_mul_right radix small
      have bounded := inductionHypothesis behind next
      rwa [List.length_cons, pow_succ', ← Nat.mul_assoc]

theorem lt_of_numeral? (digits : ∀ c d, digit? c = some d → d < radix) {n : Nat} {cs : List Char}
    (read : numeral? radix digit? cs = some n) : n < radix ^ cs.length := by
  have nonempty : cs ≠ [] := by
    rintro rfl
    cases read
  rw [numeral?_eq_from nonempty] at read
  simpa using lt_of_numeralFrom? digits read Nat.zero_lt_one

theorem digits_of_numeral? {n : Nat} {cs : List Char} (read : numeral? radix digit? cs = some n) :
    ∀ c ∈ cs, (digit? c).isSome := by
  cases cs with
  | nil => cases read
  | cons c cs => exact digits_of_numeralFrom? read

/-- The digits of a number denote it. -/
theorem numeral?_toDigits (large : 1 < radix)
    (reads : ∀ d < radix, digit? d.digitChar = some d) (n : Nat) :
    numeral? radix digit? (Nat.toDigits radix n) = some n := by
  rw [numeral?_eq_from Nat.toDigits_ne_nil]
  induction n using Nat.strongRecOn with
  | ind n inductionHypothesis =>
      by_cases small : n < radix
      · rw [Nat.toDigits_of_lt_base small, numeralFrom?_cons, reads n small]
        simp
      · have least : radix ≤ n := Nat.le_of_not_lt small
        have shorter : n / radix < n := Nat.div_lt_self (by omega) large
        have last := reads (n % radix) (Nat.mod_lt n (by omega))
        rw [Nat.toDigits_of_base_le large least, numeralFrom?_append,
          inductionHypothesis (n / radix) shorter, Option.bind_some, numeralFrom?_cons, last]
        exact congrArg some (Nat.div_add_mod n radix)

/-! ### Decimal and hexadecimal digits -/

theorem decimalValue?_digitChar : ∀ d < 10, decimalValue? d.digitChar = some d := by
  decide

theorem hexValue?_digitChar : ∀ d < 16, hexValue? d.digitChar = some d := by
  decide

theorem isSome_decimalValue? {c : Char} : (decimalValue? c).isSome = c.isDigit := by
  unfold decimalValue?
  cases c.isDigit <;> rfl

theorem lt_of_hexValue? (c : Char) (d : Nat) (digit : hexValue? c = some d) : d < 16 := by
  unfold hexValue? at digit
  split_ifs at digit with decimal lower upper
  · have greatest : c.toNat ≤ 57 := (Char.isDigit_iff_toNat.mp decimal).2
    have value := Option.some.inj digit
    omega
  · have greatest : c.toNat ≤ 102 := lower.2
    have value := Option.some.inj digit
    omega
  · have greatest : c.toNat ≤ 70 := upper.2
    have value := Option.some.inj digit
    omega

theorem le_toNat_of_hexValue? {c : Char} (digit : (hexValue? c).isSome) : 0x30 ≤ c.toNat := by
  unfold hexValue? at digit
  split_ifs at digit with decimal lower upper
  · exact (Char.isDigit_iff_toNat.mp decimal).1
  · have least : 97 ≤ c.toNat := lower.1
    omega
  · have least : 65 ≤ c.toNat := upper.1
    omega
  · cases digit

end ShellBridge.Text
