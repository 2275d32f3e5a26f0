import FormulaNumerics.Proofs.Numeric.Exact

set_option autoImplicit false

namespace FormulaNumerics

namespace DifferenceFormula

open Polynomial Scalar

def order : DifferenceFormula → ℕ
  | .threePoint => 1
  | .fivePoint => 1
  | .second => 2

def exactDegree : DifferenceFormula → ℕ
  | .threePoint => 2
  | .fivePoint => 4
  | .second => 3

def quotient (formula : DifferenceFormula) (f : ℚ → ℚ) (step point : ℚ) : ℚ :=
  match formula with
  | .threePoint => (f (point + step) - f (point - step)) / (2 * step)
  | .fivePoint =>
    (-f (point + 2 * step) + 8 * f (point + step) - 8 * f (point - step) + f (point - 2 * step)) /
      (12 * step)
  | .second => (f (point + step) - 2 * f point + f (point - step)) / (step * step)

variable (formula : DifferenceFormula) {step : ℚ}

theorem checkStep_of_exact (nonzero : step ≠ 0) (point : ℚ) : checkStep step point = .ok () := by
  have isNot : (step == zero) = false := decide_eq_false nonzero
  unfold checkStep
  rw [isNot]
  rfl

theorem apply_total (nonzero : step ≠ 0) (point : ℚ) (f : ℚ → ℚ) :
    formula.apply step point (fun x => .ok (f x)) = .ok (formula.quotient f step point) := by
  rw [formula.apply_of_usable (checkStep_of_exact nonzero point)]
  cases formula <;> rfl

theorem eval_iterate_derivative {p : ℚ[X]} {n k : ℕ} (low : p.natDegree ≤ n + k) (x : ℚ) :
    (derivative^[k] p).eval x =
      ∑ i ∈ Finset.range (n + 1), (i + k).descFactorial k * p.coeff (i + k) * x ^ i := by
  have degree := natDegree_iterate_derivative p k
  rw [eval_eq_sum_range' (n := n + 1) (by omega)]
  refine Finset.sum_congr rfl fun i _ => ?_
  rw [coeff_iterate_derivative, nsmul_eq_mul]

theorem quotient_of_polynomial {p : ℚ[X]} (low : p.natDegree ≤ formula.exactDegree)
    (nonzero : step ≠ 0) (point : ℚ) :
    formula.quotient (fun x => p.eval x) step point = (derivative^[formula.order] p).eval point := by
  have few : p.natDegree < formula.exactDegree + 1 := Nat.lt_succ_of_le low
  have rest : p.natDegree ≤ formula.exactDegree - formula.order + formula.order := by
    cases formula <;> exact low
  rw [eval_iterate_derivative rest]
  simp only [quotient, eval_eq_sum_range' few]
  -- In the coefficients of the polynomial both sides are sums of a few terms.
  cases formula
  all_goals
    simp only [order, exactDegree, Finset.sum_range_succ, Finset.sum_range_zero, Nat.reduceSub,
      Nat.descFactorial]
    field_simp
    push_cast
    ring

theorem mem_nodes_neg (point node : ℚ) :
    node ∈ formula.nodes (-step) point ↔ node ∈ formula.nodes step point := by
  have right : point + -step = point - step := by ring
  have left : point - -step = point + step := by ring
  have farRight : point + two * -step = point - two * step := by ring
  have farLeft : point - two * -step = point + two * step := by ring
  cases formula with
  | threePoint =>
    simp only [nodes, right, left, List.mem_cons, List.not_mem_nil, or_false]
    tauto
  | fivePoint =>
    simp only [nodes, right, left, farRight, farLeft, List.mem_cons, List.not_mem_nil, or_false]
    tauto
  | second =>
    simp only [nodes, right, left, List.mem_cons, List.not_mem_nil, or_false]
    tauto

theorem quotient_neg (f : ℚ → ℚ) (point : ℚ) :
    formula.quotient f (-step) point = formula.quotient f step point := by
  have right : point + -step = point - step := by ring
  have left : point - -step = point + step := by ring
  have farRight : point + 2 * -step = point - 2 * step := by ring
  have farLeft : point - 2 * -step = point + 2 * step := by ring
  unfold quotient
  rw [right, left, farRight, farLeft]
  cases formula <;> ring

theorem apply_of_apply_neg (nonzero : step ≠ 0) {point value : ℚ}
    {sample : ℚ → Except (Fault ℚ) ℚ} (given : formula.apply (-step) point sample = .ok value) :
    formula.apply step point sample = .ok value := by
  have samples := formula.samples_apply (checkStep_of_exact nonzero point)
  have reversed := formula.samples_apply (checkStep_of_exact (neg_ne_zero.mpr nonzero) point)
  have sound := reversed.exists_ok_iff.mp ⟨value, given⟩
  obtain ⟨value', given'⟩ := samples.exists_ok_iff.mpr fun node among =>
    sound node ((formula.mem_nodes_neg point node).mpr among)
  have same : value' = value := by
    rw [samples.value_eq (formula.apply_total nonzero point) 0 given',
      reversed.value_eq (formula.apply_total (neg_ne_zero.mpr nonzero) point) 0 given,
      formula.quotient_neg]
  rw [given', same]

theorem differentiates_polynomials (nonzero : step ≠ 0) (point : ℚ) :
    (∀ p : ℚ[X], p.natDegree ≤ formula.exactDegree →
      formula.apply step point (fun x => .ok (p.eval x)) =
        .ok ((derivative^[formula.order] p).eval point)) ∧
    ∀ sample value, formula.apply (-step) point sample = .ok value ↔
      formula.apply step point sample = .ok value := by
  constructor
  · intro p low
    rw [formula.apply_total nonzero, formula.quotient_of_polynomial low nonzero]
  · intro sample value
    constructor
    · exact formula.apply_of_apply_neg nonzero
    · intro given
      refine formula.apply_of_apply_neg (neg_ne_zero.mpr nonzero) ?_
      rwa [neg_neg]

-- The degree is the greatest for the formula, and the step leads to the left.
theorem differentiates_fourth_power : (-1 / 2 : ℚ) ≠ 0 ∧
    (X ^ 4 : ℚ[X]).natDegree ≤ exactDegree .fivePoint ∧
    apply .fivePoint (-1 / 2) 3 (fun x : ℚ => .ok ((X ^ 4 : ℚ[X]).eval x)) = .ok 108 := by
  have nonzero : (-1 / 2 : ℚ) ≠ 0 := by norm_num
  have low : (X ^ 4 : ℚ[X]).natDegree ≤ exactDegree .fivePoint := (natDegree_X_pow 4).le
  have slope : (derivative^[order .fivePoint] (X ^ 4 : ℚ[X])).eval 3 = 108 := by
    simp only [order, Function.iterate_one, derivative_X_pow, eval_mul, eval_pow, eval_X, eval_C]
    norm_num
  refine ⟨nonzero, low, ?_⟩
  rw [(differentiates_polynomials .fivePoint nonzero 3).1 _ low, slope]

end DifferenceFormula

end FormulaNumerics
