import FormulaNumerics.Proofs.Numeric.Exact

set_option autoImplicit false

namespace FormulaNumerics

namespace QuadratureRule

open Scalar

variable {step start stop : ℚ}

theorem forall_endNodes_iff (P : ℚ → Prop) {n : ℕ} (divides : stop - start = n * step)
    (some : n ≠ 0) (few : n ≤ maxCount) :
    (∀ node ∈ start :: stop :: gridNodes step start (n - 1), P node) ↔
      ∀ k ≤ n, P (start + k * step) := by
  have last : stop = start + n * step := by linarith
  rw [gridNodes_eq (by omega), last]
  simp only [List.forall_mem_cons, List.forall_mem_map, List.mem_range]
  constructor
  · rintro ⟨first, last, inner⟩ k within
    rcases Nat.eq_zero_or_pos k with rfl | positive
    · simpa using first
    · rcases Nat.eq_or_lt_of_le within with rfl | below
      · exact last
      · obtain ⟨i, rfl⟩ := Nat.exists_eq_succ_of_ne_zero positive.ne'
        exact inner i (by omega)
  · intro all
    exact ⟨by simpa using all 0 (Nat.zero_le _), all n le_rfl, fun i below => all _ (by omega)⟩

section Agreement

variable (sample : ℚ → Except (Fault ℚ) ℚ) {value : ℚ}

section Midpoint

variable {n : ℕ} (positive : 0 < step) (divides : stop - start = n * step)

include positive divides

theorem samples_midpoint_of_divides :
    Samples (((List.range n).map fun i : ℕ => start + i * step).map (· + step / 2)) none
      fun sample => apply step start stop sample .midpoint := by
  have valid := checkRange_of_exact positive (ordered_of_divides positive divides)
  have enough := (positions_of_divides positive divides).ge
  exact samples_midpoint valid (strides_of_divides positive divides) (by simpa)

theorem midpoint_succeeds_iff :
    (∃ value, apply step start stop sample .midpoint = .ok value) ↔
      ∀ k < n, ∃ value, sample (start + k * step + step / 2) = .ok value := by
  rw [(samples_midpoint_of_divides positive divides).exists_ok_iff]
  simp

theorem midpoint_value (given : apply step start stop sample .midpoint = .ok value) :
    value = composite .midpoint (valueOr 0 sample) step start n :=
  (samples_midpoint_of_divides positive divides).value_eq
    (fun f => midpoint_eq_composite f positive divides) 0 given

end Midpoint

section Trapezoidal

variable {n : ℕ} (positive : 0 < step) (divides : stop - start = n * step) (some : n ≠ 0)
  (few : n ≤ maxCount)

include positive divides few

theorem samples_trapezoidal_of_divides : Samples (start :: stop :: gridNodes step start (n - 1))
    none fun sample => apply step start stop sample .trapezoidal := by
  have samples :=
    samples_trapezoidal (checkRange_of_exact positive (ordered_of_divides positive divides))
  rwa [toNat_wholeSteps_of_divides positive divides few] at samples

include some

theorem trapezoidal_succeeds_iff :
    (∃ value, apply step start stop sample .trapezoidal = .ok value) ↔
      ∀ k ≤ n, ∃ value, sample (start + k * step) = .ok value := by
  rw [(samples_trapezoidal_of_divides positive divides few).exists_ok_iff]
  exact forall_endNodes_iff _ divides some few

theorem trapezoidal_value (given : apply step start stop sample .trapezoidal = .ok value) :
    value = composite .trapezoidal (valueOr 0 sample) step start n :=
  (samples_trapezoidal_of_divides positive divides few).value_eq
    (fun f => trapezoidal_eq_composite f positive divides some few) 0 given

end Trapezoidal

section Simpson

variable {m : ℕ} (positive : 0 < step) (divides : stop - start = (2 * m : ℕ) * step) (some : m ≠ 0)
  (few : 2 * m ≤ maxCount)

include positive divides some few

theorem toNat_panels_of_divides : (panels step start stop).toNat = 2 * m := by
  have limit : maxCount = 2 ^ 64 - 1 := rfl
  rw [toNat_panels, toNat_wholeSteps_of_divides positive divides few]
  omega

theorem samples_simpson_of_divides : Samples (start :: stop :: gridNodes step start (2 * m - 1))
    none fun sample => apply step start stop sample .simpson := by
  have apart := apart_of_divides positive (by omega) divides
  have count := toNat_panels_of_divides positive divides some few
  have width : panelStep step start stop = step := by
    unfold panelStep
    rw [exact_ofCount, count, divides]
    field_simp
  have samples := samples_simpson (checkRange_of_exact positive apart.le) (decide_eq_false apart.ne)
  rwa [count, width] at samples

theorem simpson_succeeds_iff :
    (∃ value, apply step start stop sample .simpson = .ok value) ↔
      ∀ k ≤ 2 * m, ∃ value, sample (start + k * step) = .ok value := by
  rw [(samples_simpson_of_divides positive divides some few).exists_ok_iff]
  exact forall_endNodes_iff _ divides (by omega) few

theorem simpson_value (given : apply step start stop sample .simpson = .ok value) :
    value = composite .simpson (valueOr 0 sample) (2 * step) start m := by
  have apart := apart_of_divides positive (by omega) divides
  have count := toNat_panels_of_divides positive divides some few
  have width : (stop - start) / m = 2 * step := by
    rw [divides, Nat.cast_mul, Nat.cast_two]
    field_simp
  rw [← width]
  exact (samples_simpson_of_divides positive divides some few).value_eq
    (fun f => simpson_eq_composite f positive apart some count) 0 given

end Simpson

-- The even nodes are the ends of the panels of twice the step, the odd ones their middles.
theorem forall_nodes_iff (P : ℚ → Prop) (m : ℕ) : (∀ k ≤ 2 * m, P (start + k * step)) ↔
    (∀ k ≤ m, P (start + k * (2 * step))) ∧ ∀ k < m, P (start + k * (2 * step) + 2 * step / 2) := by
  have even (k : ℕ) : start + k * (2 * step) = start + (2 * k : ℕ) * step := by
    push_cast
    ring
  have odd (k : ℕ) :
      start + (2 * k : ℕ) * step + 2 * step / 2 = start + (2 * k + 1 : ℕ) * step := by
    push_cast
    ring
  simp only [even, odd]
  constructor
  · intro all
    exact ⟨fun k within => all (2 * k) (by omega), fun k below => all (2 * k + 1) (by omega)⟩
  · rintro ⟨ends, middles⟩ k within
    rcases Nat.even_or_odd' k with ⟨j, rfl | rfl⟩
    · exact ends j (by omega)
    · exact middles j (by omega)

theorem simpson_of_trapezoidal_and_midpoint {m : ℕ} (positive : 0 < step) (some : 1 ≤ m)
    (divides : stop - start = 2 * m * step) (few : 2 * m ≤ maxCount) :
    ((∃ value, apply step start stop sample .simpson = .ok value) ↔
      (∃ value, apply (2 * step) start stop sample .trapezoidal = .ok value) ∧
      ∃ value, apply (2 * step) start stop sample .midpoint = .ok value) ∧
    ∀ simpson trapezoidal midpoint,
      apply step start stop sample .simpson = .ok simpson →
      apply (2 * step) start stop sample .trapezoidal = .ok trapezoidal →
      apply (2 * step) start stop sample .midpoint = .ok midpoint →
      simpson = (trapezoidal + 2 * midpoint) / 3 := by
  have nonzero : m ≠ 0 := Nat.one_le_iff_ne_zero.mp some
  have single : stop - start = (2 * m : ℕ) * step := by rw [divides, Nat.cast_mul, Nat.cast_two]
  have double : stop - start = m * (2 * step) := by rw [divides]; ring
  have twice : 0 < 2 * step := by linarith
  have half : m ≤ maxCount := by omega
  constructor
  · rw [simpson_succeeds_iff sample positive single nonzero few,
      trapezoidal_succeeds_iff sample twice double nonzero half,
      midpoint_succeeds_iff sample twice double]
    exact forall_nodes_iff (fun x => ∃ value, sample x = .ok value) m
  · intro simpson trapezoidal midpoint simpsonGiven trapezoidalGiven midpointGiven
    rw [simpson_value sample positive single nonzero few simpsonGiven,
      trapezoidal_value sample twice double nonzero half trapezoidalGiven,
      midpoint_value sample twice double midpointGiven]
    exact composite_simpson _ _ _ _

-- The function has no value between the first two nodes, where no rule samples it.
theorem simpson_of_square_with_gap :
    (0 : ℚ) < 1 ∧ (6 : ℚ) - 0 = 2 * (3 : ℕ) * 1 ∧ 2 * 3 ≤ maxCount ∧
      apply 1 0 6 (fun x : ℚ => if x = 1 / 2 then .error .divisionByZero else .ok (x * x))
        .simpson = .ok 72 ∧
      apply (2 * 1) 0 6 (fun x : ℚ => if x = 1 / 2 then .error .divisionByZero else .ok (x * x))
        .trapezoidal = .ok 76 ∧
      apply (2 * 1) 0 6 (fun x : ℚ => if x = 1 / 2 then .error .divisionByZero else .ok (x * x))
        .midpoint = .ok 70 ∧
      (72 : ℚ) = (76 + 2 * 70) / 3 := by
  have positive : (0 : ℚ) < 1 := one_pos
  have divides : (6 : ℚ) - 0 = 2 * (3 : ℕ) * 1 := by norm_num
  have few : 2 * 3 ≤ maxCount := by decide
  have simpson : apply 1 0 6
      (fun x : ℚ => if x = 1 / 2 then .error .divisionByZero else .ok (x * x)) .simpson =
        .ok 72 := by decide +kernel
  have trapezoidal : apply (2 * 1) 0 6
      (fun x : ℚ => if x = 1 / 2 then .error .divisionByZero else .ok (x * x)) .trapezoidal =
        .ok 76 := by decide +kernel
  have midpoint : apply (2 * 1) 0 6
      (fun x : ℚ => if x = 1 / 2 then .error .divisionByZero else .ok (x * x)) .midpoint =
        .ok 70 := by decide +kernel
  exact ⟨positive, divides, few, simpson, trapezoidal, midpoint,
    (simpson_of_trapezoidal_and_midpoint _ positive (by decide) divides few).2 _ _ _ simpson
      trapezoidal midpoint⟩

end Agreement

section Integrals

theorem simpson_of_antiderivative {f F : ℚ → ℚ}
    (accounts : ∀ width left, panel .simpson f width left = F (left + width) - F left)
    (positive : 0 < step) (ordered : start ≤ stop) (few : ⌊(stop - start) / step⌋₊ < maxCount) :
    apply step start stop (fun x => .ok (f x)) .simpson = .ok (F stop - F start) := by
  rcases ordered.eq_or_lt with rfl | apart
  · rw [apply_of_empty positive, if_neg (by decide), sub_self]
  · obtain ⟨even, none, -⟩ := panels_toNat step start stop
    have limit : maxCount = 2 ^ 64 - 1 := rfl
    rw [toNat_wholeSteps] at none
    obtain ⟨pairs, count⟩ := Nat.dvd_of_mod_eq_zero even
    have some : pairs ≠ 0 := by omega
    rw [simpson_eq_composite f positive apart some count, composite_of_antiderivative (accounts _)]
    have last : start + pairs * ((stop - start) / pairs) = stop := by
      field_simp
      ring
    rw [last]

open Polynomial

def antiderivative (p : ℚ[X]) (x : ℚ) : ℚ :=
  ∑ i ∈ Finset.range 4, p.coeff i / (i + 1) * x ^ (i + 1)

theorem panel_of_cubic {p : ℚ[X]} (cubic : p.natDegree ≤ 3) (width left : ℚ) :
    panel .simpson (fun x => p.eval x) width left =
      antiderivative p (left + width) - antiderivative p left := by
  have few : p.natDegree < 4 := by omega
  unfold panel antiderivative
  simp only [eval_eq_sum_range' few, Finset.sum_range_succ, Finset.sum_range_zero]
  push_cast
  ring

theorem integral_of_cubic {p : ℚ[X]} (cubic : p.natDegree ≤ 3) (a b : ℚ) :
    ∫ x in (a : ℝ)..b, aeval x p = ((antiderivative p b - antiderivative p a : ℚ) : ℝ) := by
  have few : p.natDegree < 4 := by omega
  have terms (x : ℝ) : aeval x p = ∑ i ∈ Finset.range 4, (p.coeff i : ℝ) * x ^ i := by
    rw [aeval_eq_sum_range' few]
    simp only [Rat.smul_def]
  simp only [terms]
  rw [intervalIntegral.integral_finsetSum]
  · unfold antiderivative
    rw [← Finset.sum_sub_distrib, Rat.cast_sum]
    refine Finset.sum_congr rfl fun i _ => ?_
    rw [intervalIntegral.integral_const_mul, integral_pow]
    push_cast
    ring
  · intro i _
    exact (by fun_prop : Continuous fun x : ℝ => (p.coeff i : ℝ) * x ^ i).intervalIntegrable _ _

theorem simpson_integrates_cubic {p : ℚ[X]} (cubic : p.natDegree ≤ 3) (positive : 0 < step)
    (ordered : start ≤ stop) (few : ⌊(stop - start) / step⌋₊ < maxCount) :
    ∃ value : ℚ, apply step start stop (fun x => .ok (p.eval x)) .simpson = .ok value ∧
      (value : ℝ) = ∫ x in (start : ℝ)..stop, aeval x p := by
  refine ⟨antiderivative p stop - antiderivative p start, ?_, (integral_of_cubic cubic _ _).symm⟩
  exact simpson_of_antiderivative (panel_of_cubic cubic) positive ordered few

-- Three steps and a third fit into the interval, so four panels are taken.
theorem simpson_integrates_cube : (X ^ 3 : ℚ[X]).natDegree ≤ 3 ∧ (0 : ℚ) < 3 / 10 ∧
    ⌊((1 : ℚ) - 0) / (3 / 10)⌋₊ < maxCount ∧
    ∃ value : ℚ,
      apply (3 / 10) 0 1 (fun x : ℚ => .ok ((X ^ 3 : ℚ[X]).eval x)) .simpson = .ok value ∧
      (value : ℝ) = ∫ x in ((0 : ℚ) : ℝ)..(1 : ℚ), aeval x (X ^ 3 : ℚ[X]) := by
  have cubic : (X ^ 3 : ℚ[X]).natDegree ≤ 3 := (natDegree_X_pow 3).le
  have positive : (0 : ℚ) < 3 / 10 := by norm_num
  have few : ⌊((1 : ℚ) - 0) / (3 / 10)⌋₊ < maxCount := by decide +kernel
  exact ⟨cubic, positive, few, simpson_integrates_cubic cubic positive zero_le_one few⟩

def affinePrimitive (p q x : ℚ) : ℚ :=
  p * x ^ 2 / 2 + q * x

theorem panel_of_affine (rule : QuadratureRule) (p q width left : ℚ) :
    rule.panel (fun t => p * t + q) width left =
      affinePrimitive p q (left + width) - affinePrimitive p q left := by
  unfold panel affinePrimitive
  cases rule <;> ring

theorem integrates_affine (rule : QuadratureRule) (p q : ℚ) {n : ℕ} (positive : 0 < step)
    (divides : stop - start = n * step) (few : n < maxCount) :
    (rule ≠ .trapezoidal ∨ n ≠ 0 → apply step start stop (fun t => .ok (p * t + q)) rule =
      .ok (p * (stop ^ 2 - start ^ 2) / 2 + q * (stop - start))) ∧
    (n = 0 → ∀ sample, apply step start stop sample rule =
      if rule = .trapezoidal then (sample start).map (step * ·) else .ok 0) := by
  constructor
  · intro usable
    have last : start + n * step = stop := by linarith
    have integral : p * (stop ^ 2 - start ^ 2) / 2 + q * (stop - start) =
        affinePrimitive p q stop - affinePrimitive p q start := by
      unfold affinePrimitive
      ring
    rw [integral]
    cases rule with
    | midpoint =>
      rw [midpoint_eq_composite _ positive divides,
        composite_of_antiderivative (panel_of_affine _ p q step), last]
    | trapezoidal =>
      have some : n ≠ 0 := usable.resolve_left fun other => other rfl
      rw [trapezoidal_eq_composite _ positive divides some few.le,
        composite_of_antiderivative (panel_of_affine _ p q step), last]
    | simpson =>
      have steps : ⌊(stop - start) / step⌋₊ = n := by
        rw [divides, mul_div_cancel_right₀ _ positive.ne', Nat.floor_natCast]
      exact simpson_of_antiderivative (panel_of_affine _ p q) positive
        (ordered_of_divides positive divides) (steps.trans_lt few)
  · rintro rfl sample
    obtain rfl : start = stop := by simpa [sub_eq_zero, eq_comm] using divides
    exact apply_of_empty positive sample rule

-- A single panel has no nodes between its ends.
theorem trapezoidal_of_single_panel : (0 : ℚ) < 1 ∧ (3 : ℚ) - 2 = (1 : ℕ) * 1 ∧ 1 < maxCount ∧
    apply 1 2 3 (fun t : ℚ => .ok (2 * t + 5)) .trapezoidal =
      .ok (2 * (3 ^ 2 - 2 ^ 2) / 2 + 5 * (3 - 2)) := by
  have positive : (0 : ℚ) < 1 := one_pos
  have divides : (3 : ℚ) - 2 = (1 : ℕ) * 1 := by norm_num
  have few : 1 < maxCount := by decide
  exact ⟨positive, divides, few,
    (integrates_affine .trapezoidal 2 5 positive divides few).1 (.inr one_ne_zero)⟩

-- A constant has the area of a whole step over an empty interval.
theorem trapezoidal_of_empty_interval :
    (0 : ℚ) < 1 ∧ (0 : ℚ) - 0 = (0 : ℕ) * 1 ∧ 0 < maxCount ∧
      apply 1 0 0 (fun t : ℚ => .ok (0 * t + 1)) .trapezoidal = .ok 1 ∧
      apply 1 0 0 (fun t : ℚ => .ok (0 * t + 1)) .trapezoidal ≠
        .ok (0 * (0 ^ 2 - 0 ^ 2) / 2 + 1 * (0 - 0)) := by
  decide +kernel

end Integrals

end QuadratureRule

end FormulaNumerics
