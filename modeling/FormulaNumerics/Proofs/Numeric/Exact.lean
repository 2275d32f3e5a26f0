import FormulaNumerics.Proofs.Numeric.Sampling

set_option autoImplicit false

namespace FormulaNumerics

namespace Scalar

variable (x y : ℚ)

@[simp]
theorem exact_ofCount (count : UInt64) : (ofCount count : ℚ) = count.toNat := rfl

@[simp]
theorem exact_zero : (zero : ℚ) = 0 := rfl

@[simp]
theorem exact_half : (half : ℚ) = 1 / 2 := rfl

@[simp]
theorem exact_lt_iff : lt x y = true ↔ x < y := Iff.rfl

@[simp]
theorem exact_le_iff : le x y = true ↔ x ≤ y := by
  change (!Rat.blt y x) = true ↔ x ≤ y
  rw [Bool.not_eq_true', ← not_lt, ← Bool.not_eq_true]
  rfl

theorem toNat_ofNat_of_le {k : ℕ} (few : k ≤ maxCount) : (UInt64.ofNat k).toNat = k := by
  rw [UInt64.toNat_ofNat', Nat.mod_eq_of_lt (lt_of_le_of_lt few (by decide))]

theorem exact_toCount : (toCount x).toNat = min ⌊x⌋₊ maxCount := by
  change (UInt64.ofNat (min ⌊x⌋₊ maxCount)).toNat = min ⌊x⌋₊ maxCount
  exact toNat_ofNat_of_le (Nat.min_le_right _ _)

end Scalar

namespace QuadratureRule

open Scalar

-- Simpson's rule takes a pair of neighbouring panels as one.
def panel (rule : QuadratureRule) (f : ℚ → ℚ) (width left : ℚ) : ℚ :=
  match rule with
  | .midpoint => width * f (left + width / 2)
  | .trapezoidal => width / 2 * (f left + f (left + width))
  | .simpson => width / 6 * (f left + 4 * f (left + width / 2) + f (left + width))

def composite (rule : QuadratureRule) (f : ℚ → ℚ) (width start : ℚ) (count : ℕ) : ℚ :=
  ∑ i ∈ Finset.range count, rule.panel f width (start + i * width)

theorem composite_of_antiderivative {rule : QuadratureRule} {f F : ℚ → ℚ} {width : ℚ}
    (accounts : ∀ left, rule.panel f width left = F (left + width) - F left) (start : ℚ)
    (count : ℕ) : rule.composite f width start count = F (start + count * width) - F start := by
  have telescope := Finset.sum_range_sub (fun i : ℕ => F (start + i * width)) count
  rw [Nat.cast_zero, zero_mul, add_zero] at telescope
  rw [← telescope]
  refine Finset.sum_congr rfl fun i _ => ?_
  rw [accounts, Nat.cast_add_one, add_one_mul, add_assoc]

theorem composite_simpson (f : ℚ → ℚ) (width start : ℚ) (count : ℕ) :
    composite .simpson f width start count =
      (composite .trapezoidal f width start count +
        2 * composite .midpoint f width start count) / 3 := by
  unfold composite
  rw [Finset.mul_sum, ← Finset.sum_add_distrib, Finset.sum_div]
  refine Finset.sum_congr rfl fun i _ => ?_
  unfold panel
  ring

theorem sum_trapezoid (u : ℕ → ℚ) (n : ℕ) :
    1 / 2 * (u 0 + u (n + 1)) + ∑ i ∈ Finset.range n, u (i + 1) =
      ∑ i ∈ Finset.range (n + 1), 1 / 2 * (u i + u (i + 1)) := by
  induction n with
  | zero => simp
  | succ n ih =>
    rw [Finset.sum_range_succ, Finset.sum_range_succ _ (n + 1), ← ih]
    ring

theorem sum_simpson (u : ℕ → ℚ) (n : ℕ) :
    u 0 + u (2 * n + 2) +
        ∑ i ∈ Finset.range (2 * n + 1), (if (i + 1) % 2 = 0 then 2 else 4) * u (i + 1) =
      ∑ j ∈ Finset.range (n + 1), (u (2 * j) + 4 * u (2 * j + 1) + u (2 * j + 2)) := by
  induction n with
  | zero => simp; ring
  | succ n ih =>
    have even : (2 * n + 1 + 1) % 2 = 0 := by omega
    have odd : (2 * n + 2 + 1) % 2 ≠ 0 := by omega
    rw [Finset.sum_range_succ _ (n + 1), ← ih, Nat.mul_succ, Finset.sum_range_succ,
      Finset.sum_range_succ, if_pos even, if_neg odd]
    ring

theorem composite_trapezoidal_eq (f : ℚ → ℚ) (width start : ℚ) (n : ℕ) :
    composite .trapezoidal f width start (n + 1) =
      width * (1 / 2 * (f start + f (start + (n + 1 : ℕ) * width)) +
        ∑ i ∈ Finset.range n, f (start + (i + 1 : ℕ) * width)) := by
  have ends := sum_trapezoid (fun i : ℕ => f (start + i * width)) n
  simp only [Nat.cast_zero, zero_mul, add_zero] at ends
  rw [ends, Finset.mul_sum]
  refine Finset.sum_congr rfl fun i _ => ?_
  have right : start + (i + 1 : ℕ) * width = start + i * width + width := by
    push_cast
    ring
  simp only [panel, right]
  ring

theorem composite_simpson_eq (f : ℚ → ℚ) (width start : ℚ) (n : ℕ) :
    composite .simpson f (2 * width) start (n + 1) =
      (f start + f (start + (2 * n + 2 : ℕ) * width) + ∑ i ∈ Finset.range (2 * n + 1),
        (if (i + 1) % 2 = 0 then 2 else 4) * f (start + (i + 1 : ℕ) * width)) * width / 3 := by
  have ends := sum_simpson (fun i : ℕ => f (start + i * width)) n
  simp only [Nat.cast_zero, zero_mul, add_zero] at ends
  rw [ends, mul_div_assoc, Finset.sum_mul]
  refine Finset.sum_congr rfl fun j _ => ?_
  have left : start + (2 * j : ℕ) * width = start + j * (2 * width) := by
    push_cast
    ring
  have middle : start + (2 * j + 1 : ℕ) * width = start + j * (2 * width) + 2 * width / 2 := by
    push_cast
    ring
  have right : start + (2 * j + 2 : ℕ) * width = start + j * (2 * width) + 2 * width := by
    push_cast
    ring
  simp only [panel, left, middle, right]
  ring

section Loops

variable {step start stop left : ℚ} (f : ℚ → ℚ)

theorem checkRange_of_exact (positive : 0 < step) (ordered : start ≤ stop) :
    checkRange step start stop = .ok () := by
  have valid : validRange step start stop = true := by
    simp only [validRange, Bool.and_eq_true, exact_lt_iff, exact_le_iff, exact_zero]
    exact ⟨⟨⟨⟨positive, rfl⟩, rfl⟩, rfl⟩, ordered⟩
  unfold checkRange
  rw [if_pos valid]

theorem ordered_of_divides {n : ℕ} (positive : 0 < step) (divides : stop - start = n * step) :
    start ≤ stop := by
  have long : 0 ≤ n * step := mul_nonneg n.cast_nonneg positive.le
  linarith

theorem apart_of_divides {n : ℕ} (positive : 0 < step) (some : n ≠ 0)
    (divides : stop - start = n * step) : start < stop := by
  have long : 0 < n * step := mul_pos (by exact_mod_cast Nat.pos_of_ne_zero some) positive
  linarith

theorem toNat_wholeSteps :
    (wholeSteps step start stop).toNat = min ⌊(stop - start) / step⌋₊ maxCount :=
  exact_toCount _

theorem toNat_wholeSteps_of_divides {n : ℕ} (positive : 0 < step)
    (divides : stop - start = n * step) (few : n ≤ maxCount) :
    (wholeSteps step start stop).toNat = n := by
  rw [toNat_wholeSteps, divides, mul_div_cancel_right₀ _ positive.ne', Nat.floor_natCast]
  exact Nat.min_eq_left few

theorem positions_of_divides {n : ℕ} (positive : 0 < step) (divides : stop - start = n * step) :
    positions step start stop = n := by
  change (Rat.ceil ((stop - start) / step)).toNat = n
  rw [divides, mul_div_cancel_right₀ _ positive.ne']
  simp [Rat.ceil]

theorem gridNodes_eq {count : ℕ} (few : count ≤ maxCount) : gridNodes step start count =
    (List.range count).map fun i => start + ((i + 1 : ℕ) : ℚ) * step := by
  unfold gridNodes innerNodes
  rw [List.map_map]
  refine List.map_congr_left fun i among => ?_
  have below := List.mem_range.mp among
  rw [Function.comp, exact_ofCount, toNat_ofNat_of_le (by omega)]

theorem foldlM_innerNodes (weight : UInt64 → ℚ → ℚ) (count : ℕ) (few : count ≤ maxCount)
    (sum : ℚ) :
    (innerNodes count).foldlM (addNode step start (fun x => .ok (f x)) weight) sum =
      .ok (sum + ∑ i ∈ Finset.range count,
        weight (UInt64.ofNat (i + 1)) (f (start + ((i + 1 : ℕ) : ℚ) * step))) := by
  induction count with
  | zero => simp [innerNodes]; rfl
  | succ count ih =>
    have last : innerNodes (count + 1) = innerNodes count ++ [UInt64.ofNat (count + 1)] := by
      unfold innerNodes
      rw [List.range_succ, List.map_append, List.map_singleton]
    rw [last, List.foldlM_append, ih (by omega), Finset.sum_range_succ, ← add_assoc]
    change Except.ok
      (_ + weight _ (f (start + (ofCount (UInt64.ofNat (count + 1)) : ℚ) * step))) = _
    rw [exact_ofCount, toNat_ofNat_of_le few]

theorem strides_of_divides {n : ℕ} (positive : 0 < step) (divides : stop - left = n * step) :
    Strides step stop left ((List.range n).map fun i : ℕ => left + i * step) false := by
  induction n generalizing left with
  | zero =>
    rw [Nat.cast_zero, zero_mul, sub_eq_zero] at divides
    refine .arrived (Bool.eq_false_iff.mpr ?_)
    rw [Ne, exact_lt_iff, divides]
    exact lt_irrefl left
  | succ n ih =>
    rw [Nat.cast_add_one] at divides
    have count : (0 : ℚ) ≤ n := n.cast_nonneg
    have before : left < stop := by nlinarith
    have moves : (left + step == left) = false := decide_eq_false (by simpa using positive.ne')
    have rest := @ih (left + step) (by linarith)
    have shifted : ((List.range (n + 1)).map fun i : ℕ => left + i * step) =
        left :: (List.range n).map fun i : ℕ => left + step + i * step := by
      rw [List.range_succ_eq_map, List.map_cons, List.map_map, Nat.cast_zero, zero_mul, add_zero]
      refine congrArg _ (List.map_congr_left fun i _ => ?_)
      rw [Function.comp, Nat.cast_succ]
      ring
    rw [shifted]
    exact .onward before moves rest

theorem walk_of_strides {lefts : List ℚ} {stalls : Bool}
    (strides : Strides step stop left lefts stalls) (arrives : stalls = false) (budget : ℕ)
    (sum : ℚ) (enough : lefts.length ≤ budget) :
    walk step start stop (fun x => .ok (f x)) budget left sum =
      .ok (sum + (lefts.map fun left => f (left + step / 2)).sum) := by
  induction strides generalizing budget sum with
  | arrived behind => simp [walk_behind _ behind]
  | stalled before stuck => cases arrives
  | onward before moves _ ih =>
    obtain ⟨budget, rfl⟩ := Nat.exists_eq_add_of_le' enough
    rw [List.length_cons, ← Nat.add_assoc, walk_before _ before, moves]
    change walk step start stop (fun x => .ok (f x)) _ _ (sum + f (_ + step / 2)) = _
    rw [ih arrives _ _ (Nat.le_add_left _ _), List.map_cons, List.sum_cons, add_assoc]

theorem midpoint_eq_composite {n : ℕ} (positive : 0 < step) (divides : stop - start = n * step) :
    apply step start stop (fun x => .ok (f x)) .midpoint =
      .ok (composite .midpoint f step start n) := by
  have enough := (positions_of_divides positive divides).ge
  rw [apply_of_valid _ _ (checkRange_of_exact positive (ordered_of_divides positive divides))]
  unfold midpointSum
  simp only
  rw [walk_of_strides f (strides_of_divides positive divides) rfl _ _ (by simpa using enough)]
  change Except.ok (step * (zero + _)) = _
  rw [exact_zero, zero_add, List.map_map]
  unfold composite panel
  rw [← Finset.mul_sum]
  rfl

theorem trapezoidal_eq (positive : 0 < step) (ordered : start ≤ stop) :
    apply step start stop (fun x => .ok (f x)) .trapezoidal =
      .ok (step * (1 / 2 * (f start + f stop) +
        ∑ i ∈ Finset.range ((wholeSteps step start stop).toNat - 1),
          f (start + ((i + 1 : ℕ) : ℚ) * step))) := by
  have few : (wholeSteps step start stop).toNat - 1 ≤ maxCount := by
    rw [toNat_wholeSteps]
    omega
  rw [apply_of_valid _ _ (checkRange_of_exact positive ordered)]
  change (addNodes step start _ _ _ 1 (half * (f start + f stop)) >>= fun sum => pure (step * sum))
    = _
  rw [addNodes_inner, foldlM_innerNodes f _ _ few, exact_half]
  rfl

theorem trapezoidal_eq_composite {n : ℕ} (positive : 0 < step)
    (divides : stop - start = n * step) (some : n ≠ 0) (few : n ≤ maxCount) :
    apply step start stop (fun x => .ok (f x)) .trapezoidal =
      .ok (composite .trapezoidal f step start n) := by
  rw [trapezoidal_eq f positive (ordered_of_divides positive divides),
    toNat_wholeSteps_of_divides positive divides few]
  obtain ⟨n, rfl⟩ := Nat.exists_eq_succ_of_ne_zero some
  have last : start + (n + 1 : ℕ) * step = stop := by linarith
  rw [composite_trapezoidal_eq, last, Nat.succ_eq_add_one, Nat.add_sub_cancel]

-- The trapezoidal rule takes both ends of an empty interval for the ends of a panel.
theorem apply_of_empty (positive : 0 < step) (sample : ℚ → Except (Fault ℚ) ℚ)
    (rule : QuadratureRule) : apply step start start sample rule =
      if rule = .trapezoidal then (sample start).map (step * ·) else .ok 0 := by
  have none : start - start = (0 : ℕ) * step := by simp
  rw [apply_of_valid _ _ (checkRange_of_exact positive le_rfl)]
  cases rule with
  | midpoint =>
    have behind : lt start start = false := Bool.eq_false_iff.mpr (lt_irrefl start)
    simp only [midpointSum, walk_behind sample behind]
    exact congrArg Except.ok (mul_zero step)
  | trapezoidal =>
    simp only [trapezoidalSum, toNat_wholeSteps_of_divides positive none (Nat.zero_le _)]
    cases sample start with
    | error fault => rfl
    | ok value =>
      change Except.ok (step * (1 / 2 * (value + value))) = Except.ok (step * value)
      refine congrArg Except.ok ?_
      ring
  | simpson =>
    simp only [simpsonSum_eq]
    exact if_pos (decide_eq_true rfl)

theorem simpson_eq (positive : 0 < step) (apart : start < stop) :
    apply step start stop (fun x => .ok (f x)) .simpson =
      .ok ((f start + f stop + ∑ i ∈ Finset.range ((panels step start stop).toNat - 1),
        (if (i + 1) % 2 = 0 then 2 else 4) * f (start + (i + 1 : ℕ) * panelStep step start stop)) *
          panelStep step start stop / 3) := by
  have few : (panels step start stop).toNat - 1 ≤ maxCount := by
    have small := (panels step start stop).toNat_lt
    have limit : maxCount = 2 ^ 64 - 1 := rfl
    omega
  have weight (k : ℕ) :
      (ofCount (nodeWeight (UInt64.ofNat k)) : ℚ) = if k % 2 = 0 then 2 else 4 := by
    rw [exact_ofCount, nodeWeight_ofNat]
    split <;> rfl
  rw [apply_of_valid _ _ (checkRange_of_exact positive apart.le)]
  simp only [simpsonSum_eq]
  rw [if_neg (by simpa using apart.ne)]
  change (List.foldlM _ (f start + f stop) (innerNodes _) >>=
    fun sum => Except.ok (sum * panelStep step start stop / (ofCount 3 : ℚ))) = _
  rw [foldlM_innerNodes f _ _ few]
  simp only [weight]
  rfl

theorem simpson_eq_composite {pairs : ℕ} (positive : 0 < step) (apart : start < stop)
    (some : pairs ≠ 0) (count : (panels step start stop).toNat = 2 * pairs) :
    apply step start stop (fun x => .ok (f x)) .simpson =
      .ok (composite .simpson f ((stop - start) / pairs) start pairs) := by
  have width : panelStep step start stop = (stop - start) / (2 * pairs) := by
    unfold panelStep
    rw [exact_ofCount, count, Nat.cast_mul, Nat.cast_two]
  have pair : (stop - start) / pairs = 2 * panelStep step start stop := by
    rw [width]
    field_simp
  rw [simpson_eq f positive apart, pair, count]
  obtain ⟨n, rfl⟩ := Nat.exists_eq_succ_of_ne_zero some
  have last : start + (2 * n + 2 : ℕ) * panelStep step start stop = stop := by
    rw [width]
    field_simp
    push_cast
    ring
  have inner : 2 * n.succ - 1 = 2 * n + 1 := by omega
  rw [composite_simpson_eq, last, inner]

end Loops

end QuadratureRule

end FormulaNumerics
