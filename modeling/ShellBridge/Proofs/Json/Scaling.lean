import ShellBridge.Proofs.Json.Numerals
import ShellBridge.Proofs.Number.Shortest

/-!
Significands scaled by powers of ten.

The digits of the shortest decimal of a finite number are gathered, and multiplied or divided by
powers of ten without overflow.  Both the power and the product are rounded, so this takes a margin
below the overflow; only the three greatest numbers lie within the margin.
-/

namespace ShellBridge.Json.Numeral

open Scan

/-! ### Powers of ten -/

/-- Up to here a decimal is read without overflow, in spite of two roundings on the way. -/
def limit : ℚ := (2 ^ 53 - 7 / 2) * 2 ^ (971 : ℤ)

theorem unit_pos : (0 : ℚ) < 2 ^ (971 : ℤ) :=
  zpow_pos two_pos 971

theorem limit_mul_lt : limit * (1 + 1 / 2 ^ 53) ^ 2 < Binary64.overflow := by
  rw [limit, Binary64.overflow, mul_right_comm]
  exact mul_lt_mul_of_pos_right (by norm_num) unit_pos

theorem lt_overflow {x : ℚ} (less : x ≤ limit) : x < Binary64.overflow := by
  refine lt_of_le_of_lt less ?_
  rw [limit, Binary64.overflow]
  exact mul_lt_mul_of_pos_right (by norm_num) unit_pos

theorem le_limit_of_small {x : ℚ} (small : x ≤ 2 ^ 128) : x ≤ limit :=
  calc x ≤ 2 ^ (128 : ℤ) := small
    _ ≤ 2 ^ (971 : ℤ) := zpow_le_zpow_right₀ (by norm_num) (by decide)
    _ ≤ limit := le_mul_of_one_le_left unit_pos.le (by norm_num)

/-- The greatest power of ten and the next one, compared with powers of two as natural numbers:
fractions of this size are not computed. -/
theorem greatestPower_bounds :
    10 ^ greatestPower ≤ (2 ^ 53 - 4) * 2 ^ 971 ∧ 2 ^ 1024 < 10 ^ (greatestPower + 1) := by
  decide +kernel

theorem power_le_limit : ((10 ^ greatestPower : Nat) : ℚ) ≤ limit := by
  have compared : ((10 ^ greatestPower : Nat) : ℚ) ≤ ((2 ^ 53 - 4) * 2 ^ 971 : Nat) :=
    Nat.cast_le.mpr greatestPower_bounds.1
  refine le_trans compared ?_
  rw [Nat.cast_mul, Nat.cast_pow 2 971, Nat.cast_ofNat, ← zpow_natCast]
  exact mul_le_mul_of_nonneg_right (by norm_num) unit_pos.le

theorem overflow_lt_power : Binary64.overflow < 10 ^ (greatestPower + 1) := by
  have power : (2 : ℚ) ^ 53 * 2 ^ (971 : ℤ) = 2 ^ 1024 := by
    rw [← zpow_natCast, ← zpow_natCast, ← zpow_add₀ two_ne_zero]
    rfl
  have compared : (2 : ℚ) ^ 1024 < 10 ^ (greatestPower + 1) := by
    have cast : ((2 ^ 1024 : Nat) : ℚ) < (10 ^ (greatestPower + 1) : Nat) :=
      Nat.cast_lt.mpr greatestPower_bounds.2
    rwa [Nat.cast_pow, Nat.cast_pow, Nat.cast_ofNat, Nat.cast_ofNat] at cast
  refine lt_trans ?_ compared
  rw [← power, Binary64.overflow]
  exact mul_lt_mul_of_pos_right (by norm_num) unit_pos

theorem exists_ofNat? {n : Nat} (positive : 0 < n) (less : (n : ℚ) < Binary64.overflow) :
    ∃ y, Binary64.ofNat? n = some y ∧ n * (1 - 1 / 2 ^ 53) ≤ y.magnitude ∧
      y.magnitude ≤ n * (1 + 1 / 2 ^ 53) := by
  have same : (n : ℚ) / (1 : Nat) = n := by rw [Nat.cast_one, div_one]
  obtain ⟨y, read⟩ := Binary64.exists_round Nat.one_pos (same.symm ▸ less)
  have least : 1 ≤ (n : ℚ) / (1 : Nat) := by
    rw [same]
    exact_mod_cast positive
  have error := Binary64.round_error_of_one_le Nat.one_pos least read
  rw [same] at error
  exact ⟨y, read, error⟩

theorem exists_powerOfTen? {k : Nat} (small : k ≤ greatestPower) :
    ∃ p, powerOfTen? k = some p ∧ 10 ^ k * (1 - 1 / 2 ^ 53) ≤ p.magnitude ∧
      p.magnitude ≤ 10 ^ k * (1 + 1 / 2 ^ 53) := by
  have powers : 10 ^ k ≤ 10 ^ greatestPower := Nat.pow_le_pow_right (by decide) small
  have most : ((10 ^ k : Nat) : ℚ) ≤ (10 ^ greatestPower : Nat) := Nat.cast_le.mpr powers
  have bounded := exists_ofNat? (Nat.pow_pos (by decide))
    (lt_overflow (le_trans most power_le_limit))
  rwa [Nat.cast_pow, Nat.cast_ofNat] at bounded

/-- Powers of ten that are not one are greater than four. -/
theorem four_le_of_powerOfTen? {k : Nat} (positive : 0 < k) {p : Binary64}
    (least : 10 ^ k * (1 - 1 / 2 ^ 53) ≤ p.magnitude) : 4 ≤ p.magnitude := by
  have ten : (10 : ℚ) ^ 1 ≤ 10 ^ k := pow_le_pow_right₀ (by norm_num) positive
  linarith

/-! ### Decimals -/

theorem lt_overflow_of_small {x : ℚ} (less : x ≤ 2 ^ 66) : x < Binary64.overflow :=
  lt_overflow (le_limit_of_small (le_trans less (by norm_num)))

theorem exists_divideSteps (steps : Nat) {x : Binary64} (less : x.magnitude ≤ 2 ^ 66) :
    ∃ y, divideSteps steps x = some y ∧ y.magnitude ≤ 2 ^ 66 := by
  induction steps generalizing x with
  | zero => exact ⟨x, rfl, less⟩
  | succ steps inductionHypothesis =>
      rw [divideSteps]
      split
      · exact ⟨x, rfl, less⟩
      · obtain ⟨p, power, least, _⟩ := exists_powerOfTen? (Nat.le_refl greatestPower)
        have large := four_le_of_powerOfTen? (by decide) least
        obtain ⟨z, quotient, bounded⟩ :=
          Binary64.exists_div? (x := x) (le_trans (by norm_num) large) (lt_overflow_of_small less)
        have shrunk : x.magnitude / p.magnitude ≤ 2 ^ 66 / 4 :=
          div_le_div₀ (by norm_num) less (by norm_num) large
        -- The quotient is rounded, but a quarter of the bound leaves room for this.
        obtain ⟨y, further, small⟩ := inductionHypothesis (x := z) (by linarith)
        refine ⟨y, ?_, small⟩
        rw [power, Option.bind_some, quotient, Option.bind_some, further]

/-- Division by a power of ten gives a number. -/
theorem exists_divideByTens {x : Binary64} (less : x.magnitude ≤ 2 ^ 66) {k : Nat}
    (positive : 0 < k) : ∃ y, divideByTens x k = some y := by
  obtain ⟨y, divided, small⟩ := exists_divideSteps ((k - 1) / greatestPower) less
  simp only [divideByTens, divided]
  split
  · exact ⟨y, rfl⟩
  · have rest : k - (k - 1) / greatestPower * greatestPower = (k - 1) % greatestPower + 1 := by
      have whole := Nat.div_add_mod (k - 1) greatestPower
      rw [Nat.mul_comm] at whole
      omega
    have within : (k - 1) % greatestPower + 1 ≤ greatestPower :=
      Nat.mod_lt (k - 1) (show 0 < greatestPower by decide)
    obtain ⟨p, power, least, _⟩ := exists_powerOfTen? within
    have large := four_le_of_powerOfTen? (Nat.succ_pos _) least
    obtain ⟨z, quotient, _⟩ :=
      Binary64.exists_div? (x := y) (le_trans (by norm_num) large)
        (lt_overflow_of_small small)
    exact ⟨z, by rw [rest, power, Option.bind_some, quotient]⟩

/-- The product with a power of ten is a number unless it lies beyond the limit. -/
theorem exists_float?_ofNat {s k : Nat} (bounded : (s : ℚ) * 10 ^ k ≤ limit) :
    ∃ y, float? s k = some y := by
  rcases Nat.eq_zero_or_pos s with rfl | positive
  · have zero : Binary64.ofNat? 0 = some (.zero false) := rfl
    have opened : float? 0 k =
        if k ≤ greatestPower then (powerOfTen? k).bind (Binary64.zero false).mul?
        else some (.zero false) := rfl
    rw [opened]
    split
    · next small =>
        obtain ⟨p, power, _⟩ := exists_powerOfTen? small
        rw [power, Option.bind_some]
        apply Binary64.exists_mul?
        rw [Binary64.magnitude_zero, zero_mul]
        norm_num [Binary64.overflow]
    · exact ⟨_, rfl⟩
  · have one : (1 : ℚ) ≤ s := by exact_mod_cast positive
    have unit : (1 : ℚ) ≤ 10 ^ k := one_le_pow₀ (by norm_num)
    have small : k ≤ greatestPower := by
      by_contra large
      have grown : (10 : ℚ) ^ (greatestPower + 1) ≤ 10 ^ k :=
        pow_le_pow_right₀ (by norm_num) (Nat.succ_le_of_lt (not_le.mp large))
      have product : (10 : ℚ) ^ k ≤ s * 10 ^ k := le_mul_of_one_le_left (by positivity) one
      have less := lt_overflow (le_trans product bounded)
      exact absurd overflow_lt_power (not_lt.mpr (by linarith))
    have factor : (s : ℚ) ≤ s * 10 ^ k := le_mul_of_one_le_right (by positivity) unit
    obtain ⟨x, converted, _, x_le⟩ := exists_ofNat? positive (lt_overflow (le_trans factor bounded))
    obtain ⟨p, power, _, p_le⟩ := exists_powerOfTen? small
    have opened : float? s k = (powerOfTen? k).bind x.mul? := by
      simp only [float?, converted]
      exact if_pos small
    rw [opened, power, Option.bind_some]
    apply Binary64.exists_mul?
    calc x.magnitude * p.magnitude
        ≤ s * (1 + 1 / 2 ^ 53) * (10 ^ k * (1 + 1 / 2 ^ 53)) :=
          mul_le_mul x_le p_le p.magnitude_nonneg (by positivity)
      _ = s * 10 ^ k * (1 + 1 / 2 ^ 53) ^ 2 := by ring
      _ ≤ limit * (1 + 1 / 2 ^ 53) ^ 2 := by gcongr
      _ < Binary64.overflow := limit_mul_lt

theorem cast_le_of_lt_bound {s : Nat} (small : s < significandBound) : (s : ℚ) ≤ 2 ^ 64 := by
  have less : s ≤ 2 ^ 64 := small.le
  exact_mod_cast less

/-- A decimal with a significand that was gathered is a number, unless its exponent is positive and
it lies beyond the limit. -/
theorem exists_float? {s : Nat} (small : s < significandBound) {exponent : Int}
    (bounded : 0 < exponent → (s : ℚ) * 10 ^ exponent ≤ limit) :
    ∃ y, float? s exponent = some y := by
  have fits := cast_le_of_lt_bound small
  cases exponent with
  | ofNat k =>
      apply exists_float?_ofNat
      rcases Nat.eq_zero_or_pos k with rfl | positive
      · rw [pow_zero, mul_one]
        exact le_limit_of_small (le_trans fits (by norm_num))
      · have less := bounded (Int.natCast_pos.mpr positive)
        rwa [Int.ofNat_eq_natCast, zpow_natCast] at less
  | negSucc k =>
      obtain ⟨x, converted, less⟩ : ∃ x, Binary64.ofNat? s = some x ∧ x.magnitude ≤ 2 ^ 66 := by
        rcases Nat.eq_zero_or_pos s with rfl | positive
        · exact ⟨.zero false, rfl, by rw [Binary64.magnitude_zero]; norm_num⟩
        · obtain ⟨x, converted, _, x_le⟩ :=
            exists_ofNat? positive (lt_overflow_of_small (by linarith))
          exact ⟨x, converted, by linarith⟩
      obtain ⟨y, divided⟩ := exists_divideByTens less (Nat.succ_pos k)
      exact ⟨y, by simp only [float?, converted, divided]⟩

/-- Sixteen zeros behind a significand make no number too large. -/
theorem exists_float?_of_le {s : Nat} (small : s < significandBound) {exponent : Int}
    (le : exponent ≤ 16) : ∃ y, float? s exponent = some y := by
  apply exists_float? small
  intro _
  have power : (10 : ℚ) ^ exponent ≤ 10 ^ (16 : ℤ) := zpow_le_zpow_right₀ (by norm_num) le
  have fits := cast_le_of_lt_bound small
  apply le_limit_of_small
  calc (s : ℚ) * 10 ^ exponent
      ≤ 2 ^ 64 * 10 ^ (16 : ℤ) := by gcongr
    _ ≤ 2 ^ 128 := by norm_num

/-! ### Gathered digits -/

theorem mul_pow_le_valueBehind (significand : Nat) (digits : Bytes) :
    significand * 10 ^ digits.length ≤ valueBehind significand digits := by
  induction digits generalizing significand with
  | nil => exact Nat.le_of_eq (Nat.mul_one significand)
  | cons d digits inductionHypothesis =>
      calc significand * 10 ^ (digits.length + 1)
          = significand * 10 * 10 ^ digits.length := by rw [Nat.pow_succ', Nat.mul_assoc]
        _ ≤ (significand * 10 + digitValue d) * 10 ^ digits.length :=
          Nat.mul_le_mul_right _ (Nat.le_add_right _ _)
        _ ≤ valueBehind significand (d :: digits) := inductionHypothesis _

/-- Digits that are omitted are taken for zeros. -/
theorem gather_le (significand : Nat) (digits : Bytes) :
    (gather significand digits).significand * 10 ^ (gather significand digits).omitted ≤
      valueBehind significand digits := by
  fun_induction gather significand digits with
  | case1 significand => exact Nat.le_of_eq (Nat.mul_one significand)
  | case2 significand d rest next fits inductionHypothesis => exact inductionHypothesis
  | case3 significand d rest next large => exact mul_pow_le_valueBehind significand (d :: rest)

/-! ### Shortest decimals -/

section Shortest

variable {x : Binary64}

/-- Only the three greatest numbers lie beyond the limit. -/
theorem le_limit_or (finite : x.IsFinite) :
    (x.mantissa + 1 / 2) * 2 ^ x.exponent ≤ limit ∨
      x.exponent = 971 ∧ 2 ^ 53 - 3 ≤ x.mantissa := by
  have bound : (x.mantissa : ℚ) + 1 ≤ 2 ^ 53 := by exact_mod_cast finite.mantissa_lt
  by_cases top : x.exponent = 971
  · by_cases few : 2 ^ 53 - 3 ≤ x.mantissa
    · exact .inr ⟨top, few⟩
    · have less : x.mantissa + 4 ≤ 2 ^ 53 := by omega
      have less' : (x.mantissa : ℚ) + 4 ≤ 2 ^ 53 := by exact_mod_cast less
      left
      rw [top, limit]
      exact mul_le_mul_of_nonneg_right (by linarith) unit_pos.le
  · have below : x.exponent ≤ 970 := by
      have most : x.exponent ≤ 971 := finite.le_greatest
      omega
    have power : (2 : ℚ) ^ x.exponent ≤ 2 ^ (970 : ℤ) :=
      zpow_le_zpow_right₀ (by norm_num) below
    have half : (2 : ℚ) ^ (971 : ℤ) = 2 * 2 ^ (970 : ℤ) := by
      rw [← zpow_one_add₀ two_ne_zero]
      rfl
    left
    calc ((x.mantissa : ℚ) + 1 / 2) * 2 ^ x.exponent
        ≤ (2 ^ 53 - 1 / 2) * 2 ^ (970 : ℤ) :=
          mul_le_mul (by linarith) power (by positivity) (by norm_num)
      _ ≤ (2 ^ 53 - 7 / 2) * 2 * 2 ^ (970 : ℤ) :=
        mul_le_mul_of_nonneg_right (by norm_num) (zpow_pos two_pos 970).le
      _ = limit := by rw [limit, half, mul_assoc]

/-- For these three the number is computed. -/
theorem isSome_float?_of_greatest : ∀ negative : Bool,
    ∀ mantissa ∈ [2 ^ 53 - 3, 2 ^ 53 - 2, 2 ^ 53 - 1],
      let d := (⟨negative, mantissa, 971⟩ : Binary64).shortest
      let gathered := gather 0 (digits d.coefficient)
      (float? gathered.significand (d.exponent + gathered.omitted)).isSome = true := by
  decide +kernel

/-- The digits of the shortest decimal give a number. -/
theorem exists_float?_shortest (finite : x.IsFinite) :
    ∃ y, float? (gather 0 (digits x.shortest.coefficient)).significand
      (x.shortest.exponent + (gather 0 (digits x.shortest.coefficient)).omitted) = some y := by
  rcases le_limit_or finite with bounded | ⟨top, few⟩
  · apply exists_float? (gather_lt (by decide) _)
    intro _
    have gathered := gather_le 0 (digits x.shortest.coefficient)
    rw [valueBehind_digits] at gathered
    have gathered' : ((gather 0 (digits x.shortest.coefficient)).significand : ℚ) *
        10 ^ (gather 0 (digits x.shortest.coefficient)).omitted ≤ x.shortest.coefficient := by
      exact_mod_cast gathered
    rw [zpow_add₀ (by norm_num), zpow_natCast, mul_left_comm, mul_comm]
    calc _ ≤ (x.shortest.coefficient : ℚ) * 10 ^ x.shortest.exponent := by gcongr
      _ ≤ (x.mantissa + 1 / 2) * 2 ^ x.exponent := x.value_shortest_le
      _ ≤ limit := bounded
  · have mantissa_lt := finite.mantissa_lt
    obtain ⟨negative, mantissa, exponent⟩ := x
    simp only at top few mantissa_lt
    subst top
    apply Option.isSome_iff_exists.mp
    apply isSome_float?_of_greatest negative mantissa
    have few' : mantissa = 2 ^ 53 - 3 ∨ mantissa = 2 ^ 53 - 2 ∨ mantissa = 2 ^ 53 - 1 := by omega
    simpa using few'

/-- The exponents of finite numbers have three digits at most. -/
theorem magnitude_shortest_le (finite : x.IsFinite) (nonzero : x.shortest.coefficient ≠ 0) :
    x.shortest.magnitude ≤ greatestPower := by
  have leading : 10 ^ (x.shortest.digits.length - 1) ≤ x.shortest.coefficient := by
    rcases Nat.eq_zero_or_pos (x.shortest.digits.length - 1) with zero | positive
    · rw [zero]
      exact Nat.pos_of_ne_zero nonzero
    · apply Nat.le_of_not_lt
      rw [← Nat.length_toDigits_le_iff (by decide) positive]
      show ¬ x.shortest.digits.length ≤ _
      omega
  have leading' : (10 : ℚ) ^ (x.shortest.digits.length - 1) ≤ x.shortest.coefficient := by
    exact_mod_cast leading
  have bound : (x.mantissa : ℚ) + 1 ≤ 2 ^ 53 := by exact_mod_cast finite.mantissa_lt
  have power : (2 : ℚ) ^ x.exponent ≤ 2 ^ (971 : ℤ) :=
    zpow_le_zpow_right₀ (by norm_num) finite.le_greatest
  have compared : (10 : ℚ) ^ x.shortest.magnitude < 10 ^ ((greatestPower + 1 : Nat) : ℤ) :=
    calc (10 : ℚ) ^ x.shortest.magnitude
        = 10 ^ (x.shortest.digits.length - 1) * 10 ^ x.shortest.exponent := by
          rw [Decimal.magnitude, zpow_add₀ (by norm_num), zpow_natCast, mul_comm]
      _ ≤ x.shortest.coefficient * 10 ^ x.shortest.exponent := by gcongr
      _ ≤ (x.mantissa + 1 / 2) * 2 ^ x.exponent := x.value_shortest_le
      _ ≤ Binary64.overflow :=
        mul_le_mul (by linarith) power (by positivity) (by norm_num)
      _ < 10 ^ ((greatestPower + 1 : Nat) : ℤ) := by
        rw [zpow_natCast]
        exact overflow_lt_power
  have less := (zpow_lt_zpow_iff_right₀ (by norm_num)).mp compared
  omega

end Shortest

end ShellBridge.Json.Numeral
