import FormulaNumerics.Proofs.Numeric.Exact

set_option autoImplicit false

namespace FormulaNumerics

namespace QuadratureRule

open Scalar

variable {step start stop : ℚ}

section Counts

variable (few : (wholeSteps step start stop).toNat < maxCount)

include few

theorem toNat_panels_of_few : (panels step start stop).toNat =
    max 2 ((wholeSteps step start stop).toNat + (wholeSteps step start stop).toNat % 2) := by
  have limit : maxCount = 2 ^ 64 - 1 := rfl
  rw [toNat_panels]
  omega

theorem panels_pos : (0 : ℚ) < (panels step start stop).toNat := by
  rw [Nat.cast_pos, toNat_panels_of_few few]
  omega

theorem panels_fit : (panels step start stop).toNat * panelStep step start stop = stop - start := by
  unfold panelStep
  rw [exact_ofCount, mul_div_cancel₀ _ (panels_pos few).ne']

theorem panelStep_le_iff_fits : panelStep step start stop ≤ step ↔
    stop - start ≤ (panels step start stop).toNat * step := by
  rw [← panels_fit few, mul_le_mul_iff_right₀ (panels_pos few)]

theorem toNat_wholeSteps_of_few :
    (wholeSteps step start stop).toNat = ⌊(stop - start) / step⌋₊ := by
  rw [toNat_wholeSteps] at few ⊢
  omega

theorem lt_succ_wholeSteps (positive : 0 < step) :
    stop - start < ((wholeSteps step start stop).toNat + 1) * step := by
  rw [toNat_wholeSteps_of_few few, ← div_lt_iff₀ positive]
  exact Nat.lt_floor_add_one _

theorem wholeSteps_le (positive : 0 < step) (long : step ≤ stop - start) :
    (wholeSteps step start stop).toNat * step ≤ stop - start := by
  have quotient : 0 ≤ (stop - start) / step := div_nonneg (positive.le.trans long) positive.le
  rw [toNat_wholeSteps_of_few few, ← le_div_iff₀ positive]
  exact Nat.floor_le quotient

end Counts

section Widths

variable (positive : 0 < step) (few : (wholeSteps step start stop).toNat < maxCount)

include positive few

theorem le_panels_iff : stop - start ≤ (panels step start stop).toNat * step ↔
    stop - start < step ∨ (wholeSteps step start stop).toNat % 2 = 1 ∨
      ∃ n : ℕ, stop - start = n * step := by
  have below := lt_succ_wholeSteps few positive
  have reached := wholeSteps_le few positive
  have count := toNat_panels_of_few few
  generalize (wholeSteps step start stop).toNat = k at *
  generalize (panels step start stop).toNat = n at *
  have room {j : ℕ} (within : j ≤ n) : j * step ≤ n * step :=
    mul_le_mul_of_nonneg_right (Nat.cast_le.mpr within) positive.le
  constructor
  next =>
    intro fits
    by_cases short : stop - start < step
    next => exact .inl short
    next =>
      refine .inr ((Nat.mod_two_eq_zero_or_one k).symm.imp_right fun even => ⟨k, ?_⟩)
      -- Something fits into the interval, so an even number of steps is two at least.
      have some : k ≠ 0 := by
        rintro rfl
        simp only [Nat.cast_zero, zero_add, one_mul] at below
        exact short below
      have same : n = k := by omega
      rw [same] at fits
      exact le_antisymm fits (reached (not_lt.mp short))
  next =>
    rintro (short | odd | ⟨m, divides⟩)
    next =>
      have one := room (j := 1) (by omega)
      rw [Nat.cast_one, one_mul] at one
      exact short.le.trans one
    next =>
      have more := room (j := k + 1) (by omega)
      rw [Nat.cast_add_one] at more
      exact below.le.trans more
    next =>
      rw [divides, ← Nat.cast_add_one, mul_lt_mul_iff_left₀ positive, Nat.cast_lt] at below
      rw [divides]
      exact room (by omega)

theorem panelStep_lt : panelStep step start stop < 3 / 2 * step := by
  have below := lt_succ_wholeSteps few positive
  have fit := panels_fit few
  have some := panels_pos few
  have count := toNat_panels_of_few few
  generalize (wholeSteps step start stop).toNat = k at *
  generalize (panels step start stop).toNat = n at *
  have enough : ((k : ℚ) + 1) ≤ n * (3 / 2) := by
    have twice : 2 * (k + 1) ≤ 3 * n := by omega
    have cast : (2 * (k + 1) : ℚ) ≤ 3 * n := by exact_mod_cast twice
    linarith
  refine lt_of_mul_lt_mul_left ?_ some.le
  calc
    n * panelStep step start stop = stop - start := fit
    _ < (k + 1) * step := below
    _ ≤ n * (3 / 2) * step := mul_le_mul_of_nonneg_right enough positive.le
    _ = n * (3 / 2 * step) := mul_assoc _ _ _

theorem panelStep_le_iff : (panels step start stop).toNat * panelStep step start stop =
      stop - start ∧
    (panelStep step start stop ≤ step ↔
      stop - start < step ∨ (wholeSteps step start stop).toNat % 2 = 1 ∨
        ∃ n : ℕ, stop - start = n * step) ∧
    panelStep step start stop < 3 / 2 * step :=
  ⟨panels_fit few, (panelStep_le_iff_fits few).trans (le_panels_iff positive few),
    panelStep_lt positive few⟩

end Widths

-- Three whole steps and a half become four panels.
theorem panelStep_le_of_three : (0 : ℚ) < 2 ∧ (wholeSteps (2 : ℚ) 0 7).toNat < maxCount ∧
    panelStep (2 : ℚ) 0 7 ≤ 2 := by
  have odd : (wholeSteps (2 : ℚ) 0 7).toNat = 3 := by decide +kernel
  have few : (wholeSteps (2 : ℚ) 0 7).toNat < maxCount := by
    rw [odd]
    decide
  have positive : (0 : ℚ) < 2 := two_pos
  refine ⟨positive, few, (panelStep_le_iff positive few).2.1.mpr (.inr (.inl ?_))⟩
  rw [odd]

-- Two whole steps and a half are only two panels.
theorem panelStep_of_two : (0 : ℚ) < 2 ∧ (2 : ℚ) ≤ 5 - 0 ∧
    (wholeSteps (2 : ℚ) 0 5).toNat < maxCount ∧ panelStep (2 : ℚ) 0 5 = 5 / 2 ∧
    ¬panelStep (2 : ℚ) 0 5 ≤ 2 := by
  have width : panelStep (2 : ℚ) 0 5 = 5 / 2 := by decide +kernel
  refine ⟨two_pos, by norm_num, by decide +kernel, width, ?_⟩
  rw [width]
  norm_num

end QuadratureRule

end FormulaNumerics
