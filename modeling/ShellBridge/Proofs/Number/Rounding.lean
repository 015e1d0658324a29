import ShellBridge.Number.Binary64
import Mathlib.Algebra.Order.Field.Power
import Mathlib.Data.Rat.Cast.Order
import Mathlib.Tactic.FieldSimp
import Mathlib.Tactic.Linarith
import Mathlib.Tactic.NormNum
import Mathlib.Tactic.Positivity
import Mathlib.Tactic.Ring

/-!
Rounding to binary64 numbers.

A quotient is rounded at an exponent that leaves it 53 binary digits, or at the least one.  So the
result is off by half a unit of the last place, and it overflows only at the middle between the
greatest number and the next power of two.
-/

namespace ShellBridge.Binary64

/-- The magnitude of a number. -/
def magnitude (x : Binary64) : ℚ :=
  x.mantissa * 2 ^ x.exponent

/-- The number is one of the finite binary64 numbers. -/
structure IsFinite (x : Binary64) : Prop where
  mantissa_lt : x.mantissa < 2 ^ 53
  least_le : leastExponent ≤ x.exponent
  le_greatest : x.exponent ≤ greatestExponent

/-- The middle between the greatest number and the next power of two. -/
def overflow : ℚ := (2 ^ 53 - 1 / 2) * 2 ^ (971 : ℤ)

/-! ### Fractions -/

theorem scale_pos (num : Nat) {den : Nat} (positive : 0 < den) (e : Int) :
    0 < (scale num den e).2 := by
  cases e with
  | ofNat e => exact Nat.mul_pos positive (Nat.pow_pos (by decide))
  | negSucc e => exact positive

theorem scale_eq (num den : Nat) (e : Int) :
    ((scale num den e).1 : ℚ) / (scale num den e).2 = num / den / 2 ^ e := by
  cases e with
  | ofNat e =>
      simp only [scale, Nat.cast_mul, Int.ofNat_eq_natCast, zpow_natCast]
      rw [div_mul_eq_div_div, Nat.pow_eq, Nat.cast_pow, Nat.cast_ofNat]
  | negSucc e =>
      simp only [scale, Nat.cast_mul, zpow_negSucc]
      rw [div_inv_eq_mul, Nat.pow_eq, Nat.cast_pow, Nat.cast_ofNat]
      ring

theorem fraction_pos (x : Binary64) : 0 < x.fraction.2 := by
  unfold fraction
  split
  · exact Nat.one_pos
  · exact Nat.pow_pos (by decide)

theorem fraction_eq (x : Binary64) : (x.fraction.1 : ℚ) / x.fraction.2 = x.magnitude := by
  rw [magnitude, fraction]
  split
  · next e given =>
      rw [given, Nat.pow_eq, Nat.cast_mul, Nat.cast_pow, Nat.cast_ofNat, Nat.cast_one, div_one,
        Int.ofNat_eq_natCast, zpow_natCast]
  · next e given =>
      rw [given, Nat.pow_eq, Nat.cast_pow, Nat.cast_ofNat, zpow_negSucc, div_eq_mul_inv]

theorem magnitude_nonneg (x : Binary64) : 0 ≤ x.magnitude := by
  unfold magnitude
  positivity

/-! ### The nearest natural number -/

section RoundDiv

variable {n d : Nat} (positive : 0 < d)
include positive

theorem div_eq_add : (n : ℚ) / d = (n / d : Nat) + (n % d : Nat) / d := by
  have whole : (d : ℚ) * (n / d : Nat) + (n % d : Nat) = n := by
    exact_mod_cast Nat.div_add_mod n d
  have nonzero : (d : ℚ) ≠ 0 := by exact_mod_cast positive.ne'
  rw [← whole]
  field_simp

theorem roundDiv_le : (roundDiv n d : ℚ) ≤ n / d + 1 / 2 := by
  have bound : (0 : ℚ) < d := by exact_mod_cast positive
  rw [div_eq_add positive, roundDiv]
  split
  · have rest : (0 : ℚ) ≤ (n % d : Nat) / d := by positivity
    linarith
  · next up =>
      have half : (1 / 2 : ℚ) ≤ (n % d : Nat) / d := by
        rw [le_div_iff₀ bound]
        have more : d ≤ 2 * (n % d) := by
          simp only [Bool.or_eq_true, decide_eq_true_eq, not_or, not_lt] at up
          exact up.1
        have more' : (d : ℚ) ≤ 2 * (n % d : Nat) := by exact_mod_cast more
        linarith
      rw [Nat.cast_add, Nat.cast_one]
      linarith

theorem le_roundDiv : (n : ℚ) / d - 1 / 2 ≤ roundDiv n d := by
  have bound : (0 : ℚ) < d := by exact_mod_cast positive
  rw [div_eq_add positive, roundDiv]
  split
  · next down =>
      have half : ((n % d : Nat) : ℚ) / d ≤ 1 / 2 := by
        rw [div_le_iff₀ bound]
        have less : 2 * (n % d) ≤ d := by
          simp only [Bool.or_eq_true, decide_eq_true_eq, Bool.and_eq_true, beq_iff_eq] at down
          omega
        have less' : (2 : ℚ) * (n % d : Nat) ≤ d := by exact_mod_cast less
        linarith
      linarith
  · have rest : ((n % d : Nat) : ℚ) / d ≤ 1 := by
      rw [div_le_one bound]
      exact_mod_cast (Nat.mod_lt n positive).le
    rw [Nat.cast_add, Nat.cast_one]
    linarith

end RoundDiv

/-! ### The exponent -/

section Exponent

variable {num den : Nat} (positive : 0 < num) (positive' : 0 < den)
include positive positive'

theorem pow_log2_sub_le : (2 : ℚ) ^ ((Nat.log2 num : Int) - Nat.log2 den - 1) ≤ num / den := by
  have bound : (0 : ℚ) < den := by exact_mod_cast positive'
  have least : (2 : ℚ) ^ (Nat.log2 num : Int) ≤ num := by
    rw [zpow_natCast]
    exact_mod_cast Nat.log2_self_le positive.ne'
  have most : (den : ℚ) ≤ 2 ^ ((Nat.log2 den : Int) + 1) := by
    have less : den ≤ 2 ^ (Nat.log2 den + 1) := Nat.lt_log2_self.le
    rw [← Nat.cast_one, ← Nat.cast_add, zpow_natCast]
    exact_mod_cast less
  rw [le_div_iff₀ bound]
  calc (2 : ℚ) ^ ((Nat.log2 num : Int) - Nat.log2 den - 1) * den
      ≤ 2 ^ ((Nat.log2 num : Int) - Nat.log2 den - 1) * 2 ^ ((Nat.log2 den : Int) + 1) := by
        gcongr
    _ = 2 ^ (Nat.log2 num : Int) := by
        rw [← zpow_add₀ two_ne_zero]
        congr 1
        ring
    _ ≤ num := least

/-- At the exponent the fraction has 53 binary digits, unless it is the least one. -/
theorem exponentOf_cases :
    exponentOf num den = leastExponent ∨
      2 ^ 52 * (2 : ℚ) ^ exponentOf num den ≤ num / den := by
  rw [exponentOf]
  generalize first : (Nat.log2 num : Int) - Nat.log2 den - 52 = e
  have below := pow_log2_sub_le positive positive'
  rw [show (Nat.log2 num : Int) - Nat.log2 den - 1 = e - 1 + 52 by omega] at below
  have shifted : ∀ e : Int, 2 ^ 52 * (2 : ℚ) ^ e = 2 ^ (e + 52) := by
    intro e
    rw [zpow_add₀ two_ne_zero]
    norm_num
    ring
  rcases max_choice leastExponent
      (if (scale num den e).1 / (scale num den e).2 < 0x10000000000000 then e - 1 else e) with
    least | chosen
  · exact .inl least
  · refine .inr ?_
    simp only at chosen ⊢
    rw [chosen]
    split
    · rw [shifted]
      exact below
    · next enough =>
        have quotient : (2 ^ 52 : ℚ) ≤ num / den / 2 ^ e := by
          rw [← scale_eq num den e, div_eq_add (scale_pos num positive' e)]
          have whole : 2 ^ 52 ≤ (scale num den e).1 / (scale num den e).2 := by omega
          have whole' : (2 ^ 52 : ℚ) ≤ ((scale num den e).1 / (scale num den e).2 : Nat) := by
            exact_mod_cast whole
          have rest : (0 : ℚ) ≤
              ((scale num den e).1 % (scale num den e).2 : Nat) / (scale num den e).2 := by
            positivity
          linarith
        rwa [le_div_iff₀ (by positivity)] at quotient

end Exponent

/-! ### Rounding -/

/-- A number keeps its magnitude if its mantissa is halved and its exponent goes up. -/
theorem half_mantissa (e : Int) :
    ((0x10000000000000 : Nat) : ℚ) * 2 ^ (e + 1) = (0x20000000000000 : Nat) * 2 ^ e := by
  rw [zpow_add_one₀ two_ne_zero]
  push_cast
  ring

/-- The rounded quotient at its exponent is the magnitude, unless it lies beyond all numbers. -/
theorem round_cases (negative : Bool) {num : Nat} (positive : 0 < num) (den : Nat) :
    let e := exponentOf num den
    let m := roundDiv (scale num den e).1 (scale num den e).2
    (round negative num den = none ∧ (greatestExponent < e ∨ e = greatestExponent ∧ m = 2 ^ 53)) ∨
      ∃ y, round negative num den = some y ∧ y.magnitude = m * 2 ^ e := by
  intro e m
  have opened : round negative num den =
      (let carried := if m = 0x20000000000000 then (0x10000000000000, e + 1) else (m, e)
        if carried.2 > greatestExponent then none
        else some ⟨negative, carried.1, carried.2⟩) := by
    rw [round, if_neg positive.ne']
  rw [opened]
  by_cases carry : m = 0x20000000000000
  · simp only [if_pos carry]
    by_cases beyond : e + 1 > greatestExponent
    · rw [if_pos beyond]
      refine .inl ⟨rfl, ?_⟩
      rcases lt_or_ge greatestExponent e with above | within
      · exact .inl above
      · exact .inr ⟨by omega, carry⟩
    · rw [if_neg beyond]
      refine .inr ⟨_, rfl, ?_⟩
      rw [carry]
      exact half_mantissa e
  · simp only [if_neg carry]
    by_cases beyond : e > greatestExponent
    · rw [if_pos beyond]
      exact .inl ⟨rfl, .inl beyond⟩
    · rw [if_neg beyond]
      exact .inr ⟨_, rfl, rfl⟩

theorem round_zero (negative : Bool) (den : Nat) : round negative 0 den = some (zero negative) :=
  rfl

@[simp] theorem magnitude_zero (negative : Bool) : (zero negative).magnitude = 0 := by
  simp [zero, magnitude]

section Quotient

variable {negative : Bool} {num den : Nat} (positive : 0 < den)
include positive

/-- What lies below the overflow is rounded to a number. -/
theorem exists_round (less : (num : ℚ) / den < overflow) :
    ∃ y, round negative num den = some y := by
  rcases Nat.eq_zero_or_pos num with rfl | positiveNum
  · exact ⟨_, round_zero negative den⟩
  rcases round_cases negative positiveNum den with ⟨_, beyond | ⟨greatest, carry⟩⟩ | ⟨y, read, _⟩
  · exfalso
    rcases exponentOf_cases positiveNum positive with least | enough
    · rw [least] at beyond
      exact absurd beyond (by decide)
    · have grown : (2 : ℚ) ^ (972 : ℤ) ≤ 2 ^ exponentOf num den :=
        zpow_le_zpow_right₀ (by norm_num) beyond
      have reached : overflow ≤ 2 ^ 52 * 2 ^ (972 : ℤ) := by
        rw [overflow, show (972 : ℤ) = 971 + 1 by norm_num, zpow_add_one₀ two_ne_zero]
        have unit : (0 : ℚ) < 2 ^ (971 : ℤ) := by positivity
        generalize (2 : ℚ) ^ (971 : ℤ) = u at unit ⊢
        linarith
      linarith
  · exfalso
    have near := roundDiv_le (n := (scale num den (exponentOf num den)).1)
      (scale_pos num positive (exponentOf num den))
    rw [carry, scale_eq, greatest] at near
    have unit : (0 : ℚ) < 2 ^ greatestExponent := by positivity
    have reached : (2 ^ 53 - 1 / 2 : ℚ) ≤ num / den / 2 ^ greatestExponent := by
      push_cast at near
      linarith
    rw [le_div_iff₀ unit] at reached
    exact absurd less (not_lt.mpr reached)
  · exact ⟨y, read⟩

/-- The result is off by half a unit of the last place. -/
theorem round_error (positiveNum : 0 < num) {y : Binary64}
    (read : round negative num den = some y) :
    num / den - 2 ^ exponentOf num den / 2 ≤ y.magnitude ∧
      y.magnitude ≤ num / den + 2 ^ exponentOf num den / 2 := by
  rcases round_cases negative positiveNum den with ⟨refused, _⟩ | ⟨y', read', same⟩
  · rw [refused] at read
    cases read
  · rw [read'] at read
    cases read
    have unit : (0 : ℚ) < 2 ^ exponentOf num den := by positivity
    have scaled := scale_eq num den (exponentOf num den)
    have divisor := scale_pos num positive (exponentOf num den)
    have above := roundDiv_le (n := (scale num den (exponentOf num den)).1) divisor
    have below := le_roundDiv (n := (scale num den (exponentOf num den)).1) divisor
    rw [scaled] at above below
    rw [same]
    constructor
    · have product := mul_le_mul_of_nonneg_right below unit.le
      rw [sub_mul, div_mul_cancel₀ _ unit.ne'] at product
      linarith
    · have product := mul_le_mul_of_nonneg_right above unit.le
      rw [add_mul, div_mul_cancel₀ _ unit.ne'] at product
      linarith

/-- The relative error of a quotient that is not too small. -/
theorem round_error_of_one_le (least : 1 ≤ (num : ℚ) / den) {y : Binary64}
    (read : round negative num den = some y) :
    num / den * (1 - 1 / 2 ^ 53) ≤ y.magnitude ∧ y.magnitude ≤ num / den * (1 + 1 / 2 ^ 53) := by
  have positiveNum : 0 < num := by
    rcases Nat.eq_zero_or_pos num with rfl | positiveNum
    · norm_num at least
    · exact positiveNum
  obtain ⟨below, above⟩ := round_error positive positiveNum read
  have unit : 2 ^ 52 * (2 : ℚ) ^ exponentOf num den ≤ num / den := by
    rcases exponentOf_cases positiveNum positive with smallest | enough
    · have tiny : (2 : ℚ) ^ leastExponent ≤ 2 ^ (-52 : ℤ) :=
        zpow_le_zpow_right₀ (by norm_num) (by decide)
      have one : (2 ^ 52 : ℚ) * 2 ^ (-52 : ℤ) = 1 := by norm_num
      rw [smallest]
      linarith
    · exact enough
  constructor <;> linarith

/-- A bound for every quotient. -/
theorem magnitude_round_le {y : Binary64} (read : round negative num den = some y) :
    y.magnitude ≤ 2 * (num / den) + 1 := by
  have nonneg : (0 : ℚ) ≤ num / den := by positivity
  rcases Nat.eq_zero_or_pos num with rfl | positiveNum
  · cases (round_zero negative den).symm.trans read
    rw [magnitude_zero]
    linarith
  · have above := (round_error positive positiveNum read).2
    rcases exponentOf_cases positiveNum positive with smallest | enough
    · have tiny : (2 : ℚ) ^ leastExponent ≤ 2 ^ (0 : ℤ) :=
        zpow_le_zpow_right₀ (by norm_num) (by decide)
      rw [zpow_zero] at tiny
      rw [smallest] at above
      linarith
    · have unit : (0 : ℚ) < 2 ^ exponentOf num den := by positivity
      linarith

end Quotient

/-! ### Products and quotients -/

theorem exists_mul? {x y : Binary64} (less : x.magnitude * y.magnitude < overflow) :
    ∃ z, x.mul? y = some z := by
  have value : ((x.fraction.1 * y.fraction.1 : Nat) : ℚ) / (x.fraction.2 * y.fraction.2 : Nat) =
      x.magnitude * y.magnitude := by
    rw [← x.fraction_eq, ← y.fraction_eq, Nat.cast_mul, Nat.cast_mul, mul_div_mul_comm]
  exact exists_round (Nat.mul_pos x.fraction_pos y.fraction_pos) (value ▸ less)

/-- Dividing by one or more gives a number. -/
theorem exists_div? {x y : Binary64} (atLeast : 1 ≤ y.magnitude) (less : x.magnitude < overflow) :
    ∃ z, x.div? y = some z ∧ z.magnitude ≤ 2 * (x.magnitude / y.magnitude) + 1 := by
  have value : ((x.fraction.1 * y.fraction.2 : Nat) : ℚ) / (x.fraction.2 * y.fraction.1 : Nat) =
      x.magnitude / y.magnitude := by
    rw [← x.fraction_eq, ← y.fraction_eq, Nat.cast_mul, Nat.cast_mul, div_div_div_eq]
  have divisor : 0 < y.fraction.1 := by
    rcases Nat.eq_zero_or_pos y.fraction.1 with none | some
    · rw [← y.fraction_eq, none] at atLeast
      norm_num at atLeast
    · exact some
  have positive := Nat.mul_pos x.fraction_pos divisor
  have opened : x.div? y = round (x.negative != y.negative) (x.fraction.1 * y.fraction.2)
      (x.fraction.2 * y.fraction.1) := by
    simp only [div?, if_neg divisor.ne']
  have quotient : x.magnitude / y.magnitude ≤ x.magnitude :=
    div_le_self x.magnitude_nonneg atLeast
  have below : ((x.fraction.1 * y.fraction.2 : Nat) : ℚ) / (x.fraction.2 * y.fraction.1 : Nat) <
      overflow := by
    rw [value]
    linarith
  obtain ⟨z, read⟩ := exists_round positive below
  refine ⟨z, opened.trans read, ?_⟩
  rw [← value]
  exact magnitude_round_le positive read

end ShellBridge.Binary64
