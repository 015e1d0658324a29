import ShellBridge.Number.Shortest
import ShellBridge.Proofs.Number.Rounding

/-!
The shortest decimal of a number lies no further above it than half a unit of its last place: it is
only taken if it reads back, and trailing zeros do not change it.
-/

namespace ShellBridge

namespace Decimal

/-- The number that a decimal stands for. -/
def value (d : Decimal) : ℚ :=
  d.coefficient * 10 ^ d.exponent

theorem value_strip (fuel : Nat) (d : Decimal) : (d.strip fuel).value = d.value := by
  induction fuel generalizing d with
  | zero => rfl
  | succ fuel inductionHypothesis =>
      rw [strip]
      split
      · next zeros =>
          rw [inductionHypothesis, value, value, zpow_add_one₀ (by norm_num)]
          have whole : ((10 * (d.coefficient / 10) : Nat) : ℚ) = d.coefficient := by
            exact_mod_cast Nat.mul_div_cancel' (Nat.dvd_of_mod_eq_zero zeros.2)
          rw [← whole]
          push_cast
          ring
      · rfl

theorem coefficient_strip_ne_zero (fuel : Nat) {d : Decimal} (nonzero : d.coefficient ≠ 0) :
    (d.strip fuel).coefficient ≠ 0 := by
  induction fuel generalizing d with
  | zero => exact nonzero
  | succ fuel inductionHypothesis =>
      rw [strip]
      split
      · next zeros => exact inductionHypothesis (by show d.coefficient / 10 ≠ 0; omega)
      · exact nonzero

end Decimal

namespace Shortest

variable {x : Binary64}

theorem quarter_eq (x : Binary64) :
    ((quarter x).1 : ℚ) / (quarter x).2 = 2 ^ (x.exponent - 2) ∧ 0 < (quarter x).2 := by
  unfold quarter
  cases given : x.exponent - 2 with
  | ofNat e => simp
  | negSucc e => simp [zpow_negSucc, Nat.pow_eq]

theorem high_interval (x : Binary64) : (interval x).high = 4 * x.mantissa + 2 := by
  simp only [interval]
  split <;> rfl

/-- What reads back lies no further above the number than half a unit. -/
theorem value_le_of_readsBack {d : Decimal} (reads : readsBack x d.coefficient d.exponent = true) :
    d.value ≤ (x.mantissa + 1 / 2) * 2 ^ x.exponent := by
  obtain ⟨unit, positive⟩ := quarter_eq x
  have bound : (0 : ℚ) < (quarter x).2 := by exact_mod_cast positive
  have middle : (x.mantissa + 1 / 2 : ℚ) * 2 ^ x.exponent =
      (4 * x.mantissa + 2) * ((quarter x).1 / (quarter x).2) := by
    rw [unit, zpow_sub₀ two_ne_zero]
    ring
  -- The test compares natural numbers, with the denominators on the other side.
  have compared : ∀ n m : Nat, (if (interval x).closed
      then (interval x).low * m ≤ n && n ≤ (interval x).high * m
      else (interval x).low * m < n && n < (interval x).high * m) = true →
      (n : ℚ) ≤ (4 * x.mantissa + 2) * m := by
    intro n m test
    have less : n ≤ (4 * x.mantissa + 2) * m := by
      rw [← high_interval]
      split at test <;> simp only [Bool.and_eq_true, decide_eq_true_eq] at test <;> omega
    exact_mod_cast less
  rw [middle, ← mul_div_assoc, le_div_iff₀ bound, Decimal.value]
  unfold readsBack at reads
  cases given : d.exponent with
  | ofNat e =>
      simp only [given] at reads
      have less := compared _ _ reads
      rw [Nat.pow_eq] at less
      push_cast at less
      exact less
  | negSucc e =>
      simp only [given] at reads
      have less := compared _ _ reads
      rw [Nat.pow_eq] at less
      push_cast at less
      have power : (0 : ℚ) < 10 ^ (e + 1) := by positivity
      rw [zpow_negSucc, mul_right_comm, ← div_eq_mul_inv, div_le_iff₀ power, mul_assoc]
      exact less

/-- What is found on a grid reads back and is not zero. -/
theorem onGrid?_eq_some {exponent : Int} {d : Decimal} (found : onGrid? x exponent = some d) :
    d.coefficient ≠ 0 ∧ readsBack x d.coefficient d.exponent = true := by
  have either : ∀ nearer farther : Nat,
      (if nearer ≠ 0 && readsBack x nearer exponent then some (⟨nearer, exponent⟩ : Decimal)
        else if farther ≠ 0 && readsBack x farther exponent then some ⟨farther, exponent⟩
        else none) = some d →
      d.coefficient ≠ 0 ∧ readsBack x d.coefficient d.exponent = true := by
    intro nearer farther taken
    simp only [Bool.and_eq_true, decide_eq_true_eq] at taken
    split at taken
    · next test =>
        cases taken
        exact test
    · split at taken
      · next test =>
          cases taken
          exact test
      · cases taken
  exact either _ _ found

theorem search_eq_some {magnitude : Int} {fuel count : Nat} {d : Decimal}
    (found : search x magnitude fuel count = some d) :
    d.coefficient ≠ 0 ∧ readsBack x d.coefficient d.exponent = true := by
  induction fuel generalizing count with
  | zero => cases found
  | succ fuel inductionHypothesis =>
      rw [search] at found
      split at found
      · next d' here =>
          cases found
          exact onGrid?_eq_some here
      · exact inductionHypothesis found

end Shortest

namespace Binary64

/-- The shortest decimal is zero, with no power of ten, or one that was found. -/
theorem shortest_cases (x : Binary64) :
    x.shortest = ⟨0, 0⟩ ∨ ∃ magnitude d, Shortest.search x magnitude 17 1 = some d ∧
      x.shortest = d.strip 20 := by
  simp only [shortest]
  split
  · exact .inl rfl
  · split
    · next d found => exact .inr ⟨_, d, found, rfl⟩
    · exact .inl rfl

theorem shortest_eq_zero {x : Binary64} (zero : x.shortest.coefficient = 0) :
    x.shortest = ⟨0, 0⟩ := by
  rcases x.shortest_cases with equality | ⟨magnitude, d, found, equality⟩
  · exact equality
  · rw [equality] at zero
    exact absurd zero (d.coefficient_strip_ne_zero 20 (Shortest.search_eq_some found).1)

/-- The shortest decimal lies no further above the number than half a unit. -/
theorem value_shortest_le (x : Binary64) :
    x.shortest.value ≤ (x.mantissa + 1 / 2) * 2 ^ x.exponent := by
  rcases x.shortest_cases with equality | ⟨magnitude, d, found, equality⟩
  · rw [equality, Decimal.value, Nat.cast_zero, zero_mul]
    positivity
  · rw [equality, Decimal.value_strip]
    exact Shortest.value_le_of_readsBack (Shortest.search_eq_some found).2

end Binary64

end ShellBridge
