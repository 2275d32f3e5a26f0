import FormulaNumerics.Numeric.Quadrature
import FormulaNumerics.Proofs.Numeric.Rounding

set_option autoImplicit false

namespace FormulaNumerics

section Saturation

open Float.Model Float.Model.UnpackedFloat Unpacked

theorem roundToInt_eq (sign : Sign) (m : Nat) (e : Int) :
    roundToInt sign m e = sign.apply (m * 2 ^ e.toNat / 2 ^ (-e).toNat : Nat) := by
  unfold roundToInt decreaseExponent shiftToExponent
  simp only [Nat.shiftLeft_eq, sub_zero]
  have shift : (0 - (e - e.toNat)).toNat = (-e).toNat := by omega
  rw [shift]
  change sign.apply (shortened _ _).mantissa = _
  rw [mantissa_shortened]

theorem toNat_ofNatClamp (n : Nat) : (UInt64.ofNatClamp n).toNat = min n (2 ^ 64 - 1) := by
  unfold UInt64.ofNatClamp
  split
  next small =>
    rw [UInt64.toNat_ofNatLT]
    exact (Nat.min_eq_left (Nat.le_pred_of_lt small)).symm
  next large =>
    rw [UInt64.toNat_ofNatLT]
    exact (Nat.min_eq_right (Nat.le_trans (by decide) (Nat.le_of_not_lt large))).symm

theorem Unpacked.Regular.saturates_iff {m : Nat} {e : Int} (regular : Regular m e) :
    2 ^ 64 - 1 ≤ m * 2 ^ e.toNat / 2 ^ (-e).toNat ↔ 1087 * 2 ^ 52 ≤ place m e := by
  obtain ⟨below, least, leading⟩ := regular
  -- At a lesser exponent 53 bits stay below the greatest word, even though not far below.
  by_cases large : 12 ≤ e
  next =>
    obtain ⟨n, rfl⟩ : ∃ n : Nat, e = 12 + n := ⟨(e - 12).toNat, by omega⟩
    have full := leading.resolve_left (by omega)
    refine iff_of_true ?_ (by unfold place; omega)
    have up : (12 + (n : Int)).toNat = 12 + n := by omega
    have down : (-(12 + (n : Int))).toNat = 0 := by omega
    rw [up, down, Nat.pow_zero, Nat.div_one]
    calc
      2 ^ 64 - 1 ≤ 2 ^ 52 * 2 ^ 12 := by norm_num
      _ ≤ m * 2 ^ (12 + n) := Nat.mul_le_mul full (Nat.pow_le_pow_right (by norm_num) (by omega))
  next =>
    refine iff_of_false (Nat.not_le.mpr ?_) (by unfold place; omega)
    calc
      m * 2 ^ e.toNat / 2 ^ (-e).toNat ≤ m * 2 ^ e.toNat := Nat.div_le_self _ _
      _ ≤ (2 ^ 53 - 1) * 2 ^ 11 :=
        Nat.mul_le_mul (by omega) (Nat.pow_le_pow_right (by norm_num) (by omega))
      _ < 2 ^ 64 - 1 := by norm_num

theorem Unpacked.saturates_iff {u : UnpackedFloat} (stored : Stored u) (some : u ≠ .notANumber) :
    2 ^ 64 - 1 ≤ (u.toInt 0 (UInt64.size - 1)).toNat ↔ 1087 * 2 ^ 52 ≤ rank u := by
  cases u with
  | notANumber => exact absurd rfl some
  | infinity sign =>
    cases sign with
    | positive => exact iff_of_true (Nat.le_refl _) (by norm_num [rank, Sign.apply, infinitePlace])
    | negative => exact iff_of_false (by decide) (by norm_num [rank, Sign.apply, infinitePlace])
  | zero sign => exact iff_of_false (by simp [toInt]) (by norm_num [rank])
  | finite sign m e positive =>
    have saturates := stored.1.saturates_iff
    have nonneg := stored.1.place_nonneg
    rw [toInt, roundToInt_eq]
    generalize m * 2 ^ e.toNat / 2 ^ (-e).toNat = whole at saturates ⊢
    cases sign with
    | positive => exact saturates
    | negative =>
      simp only [rank, Sign.apply]
      omega

theorem toUInt64_eq_max_iff (x : Float) :
    x.toUInt64.toNat = 2 ^ 64 - 1 ↔ (18446744073709551616.0 : Float) ≤ x := by
  cases number : x.isNaN with
  | true =>
    rw [Float.isNaN_eq_decide_eq_nan, decide_eq_true_iff] at number
    subst number
    decide +kernel
  | false =>
    have limit : binaryRank 18446744073709551616.0 = 2 ^ 63 + 1087 * 2 ^ 52 := by decide +kernel
    have ranked := binaryRank_eq_rank number
    have saturates := saturates_iff (stored_toModel x) (unpack_ne_notANumber number)
    rw [le_iff_binaryRank_le (by decide +kernel) number, limit]
    change (UInt64.ofNatClamp (x.toModel.unpack.toInt 0 (UInt64.size - 1)).toNat).toNat = _ ↔ _
    rw [toNat_ofNatClamp]
    omega

end Saturation

namespace QuadratureRule

open Scalar

section

variable {α : Type} [Scalar α] (step start stop : α) (sample : α → Except (Fault α) α)

def innerNodes (count : Nat) : List UInt64 :=
  (List.range count).map fun i => UInt64.ofNat (i + 1)

def addNode (weight : UInt64 → α → α) (sum : α) (index : UInt64) : Except (Fault α) α := do
  let value ← sample (start + ofCount index * step)
  return sum + weight index value

theorem addNodes_eq_foldlM (weight : UInt64 → α → α) (count : Nat) (index : UInt64)
    (sum : α) :
    addNodes step start sample weight count index sum =
      ((List.range count).map fun i => index + UInt64.ofNat i).foldlM
        (addNode step start sample weight) sum := by
  induction count generalizing index sum with
  | zero => rfl
  | succ count ih =>
    unfold addNodes
    rw [List.range_succ_eq_map, List.map_cons, List.foldlM_cons, List.map_map]
    have first : index + UInt64.ofNat 0 = index := UInt64.add_zero index
    rw [first]
    unfold addNode
    cases sampled : sample (start + ofCount index * step) with
    | error fault => rfl
    | ok value =>
      simp only
      rw [ih]
      refine congrArg (List.foldlM _ _) ?_
      refine List.map_congr_left fun i among => ?_
      rw [Function.comp, UInt64.add_assoc, Nat.succ_eq_add_one, UInt64.ofNat_add, UInt64.add_comm 1]
      rfl

-- The loops over the nodes between the ends begin with the first of them.
theorem addNodes_inner (weight : UInt64 → α → α) (count : Nat) (sum : α) :
    addNodes step start sample weight count 1 sum =
      (innerNodes count).foldlM (addNode step start sample weight) sum := by
  rw [addNodes_eq_foldlM]
  refine congrArg (List.foldlM _ _) ?_
  refine List.map_congr_left fun i _ => ?_
  rw [UInt64.ofNat_add, UInt64.add_comm]
  rfl

def nodeWeight (index : UInt64) : UInt64 :=
  if index % 2 = 0 then 2 else 4

def innerWeights (count : Nat) : List UInt64 :=
  (innerNodes count).map nodeWeight

theorem nodeWeight_ofNat (k : Nat) :
    nodeWeight (UInt64.ofNat k) = if k % 2 = 0 then 2 else 4 := by
  have even : UInt64.ofNat k % 2 = 0 ↔ k % 2 = 0 := by
    rw [← UInt64.toNat_inj, UInt64.toNat_mod, UInt64.toNat_ofNat']
    change k % 2 ^ 64 % 2 = 0 ↔ _
    omega
  simp only [nodeWeight, even]

theorem innerWeights_succ (count : Nat) :
    innerWeights (count + 1) = innerWeights count ++ [if (count + 1) % 2 = 0 then 2 else 4] := by
  unfold innerWeights innerNodes
  rw [List.range_succ, List.map_append, List.map_append, List.map_singleton, List.map_singleton,
    nodeWeight_ofNat]

theorem innerWeights_alternate (pairs : Nat) :
    innerWeights (2 * pairs + 1) = 4 :: (List.replicate pairs [2, 4]).flatten := by
  induction pairs with
  | zero => rfl
  | succ pairs ih =>
    have even : (2 * pairs + 1 + 1) % 2 = 0 := by omega
    have odd : (2 * pairs + 1 + 1 + 1) % 2 ≠ 0 := by omega
    rw [Nat.mul_succ, Nat.add_right_comm, innerWeights_succ, innerWeights_succ, if_neg odd,
      if_pos even, ih, List.replicate_succ', List.flatten_append]
    simp

theorem sum_innerWeights (pairs : Nat) :
    1 + ((innerWeights (2 * pairs + 1)).map UInt64.toNat).sum + 1 = 3 * (2 * pairs + 2) := by
  rw [innerWeights_alternate]
  induction pairs with
  | zero => rfl
  | succ pairs ih =>
    rw [List.replicate_succ, List.flatten_cons]
    simp only [List.map_cons, List.map_append, List.sum_cons, List.sum_append, List.map_nil,
      List.sum_nil] at ih ⊢
    have two : UInt64.toNat 2 = 2 := rfl
    have four : UInt64.toNat 4 = 4 := rfl
    omega

theorem simpsonSum_eq :
    simpsonSum step start stop sample = if start == stop then .ok zero else do
      let first ← sample start
      let last ← sample stop
      let sum ← (innerNodes ((panels step start stop).toNat - 1)).foldlM
        (addNode (panelStep step start stop) start sample fun index value =>
          ofCount (nodeWeight index) * value) (first + last)
      return sum * panelStep step start stop / ofCount 3 := by
  unfold simpsonSum
  simp only [addNodes_inner]
  rfl

theorem toNat_panels : (panels step start stop).toNat =
    (max (wholeSteps step start stop).toNat 2 + max (wholeSteps step start stop).toNat 2 % 2)
      % 2 ^ 64 := by
  have unfolded : panels step start stop =
      let count := if wholeSteps step start stop ≤ 2 then 2 else wholeSteps step start stop
      if count % 2 = 0 then count else count + 1 := rfl
  rw [unfolded]
  generalize wholeSteps step start stop = steps
  have small := steps.toNat_lt
  have one : UInt64.toNat 1 = 1 := rfl
  have two : UInt64.toNat 2 = 2 := rfl
  have bound : (if steps ≤ 2 then 2 else steps).toNat = max steps.toNat 2 := by
    split
    next few =>
      rw [UInt64.le_iff_toNat_le] at few
      omega
    next more =>
      rw [UInt64.le_iff_toNat_le] at more
      omega
  generalize (if steps ≤ 2 then 2 else steps) = count at bound
  have even : count % 2 = 0 ↔ count.toNat % 2 = 0 := by
    rw [← UInt64.toNat_inj, UInt64.toNat_mod]
    rfl
  simp only [even]
  split
  next => omega
  next =>
    rw [UInt64.toNat_add]
    omega

-- The greatest word is odd, and one more is zero.
theorem panels_toNat :
    (panels step start stop).toNat % 2 = 0 ∧
      ((panels step start stop).toNat = 0 ↔ (wholeSteps step start stop).toNat = 2 ^ 64 - 1) ∧
      ((panels step start stop).toNat ≠ 0 → 2 ≤ (panels step start stop).toNat) := by
  have small := (wholeSteps step start stop).toNat_lt
  rw [toNat_panels]
  omega

end

-- Where the quotient of interval and step reaches `2 ^ 64` no panel is left.
theorem simpson_panels (step start stop : Float) (sample : Float → Except (Fault Float) Float) :
    let n := (panels step start stop).toNat
    n % 2 = 0 ∧ (n = 0 ↔ (18446744073709551616.0 : Float) ≤ (stop - start) / step) ∧
      (n ≠ 0 → 2 ≤ n ∧
        (∃ pairs, innerWeights (n - 1) = 4 :: (List.replicate pairs [2, 4]).flatten) ∧
        1 + ((innerWeights (n - 1)).map UInt64.toNat).sum + 1 = 3 * n) ∧
      simpsonSum step start stop sample = if start == stop then .ok zero else do
        let first ← sample start
        let last ← sample stop
        let sum ← (innerNodes (n - 1)).foldlM
          (addNode (panelStep step start stop) start sample fun index value =>
            ofCount (nodeWeight index) * value) (first + last)
        return sum * panelStep step start stop / ofCount 3 := by
  intro n
  obtain ⟨even, none, some⟩ := panels_toNat step start stop
  refine ⟨even, none.trans (toUInt64_eq_max_iff _), ?_, simpsonSum_eq step start stop sample⟩
  intro nonzero
  obtain ⟨pairs, same⟩ : ∃ pairs, n = 2 * pairs + 2 :=
    ⟨(n - 2) / 2, by have least := some nonzero; omega⟩
  have inner : n - 1 = 2 * pairs + 1 := by omega
  rw [inner, same]
  exact ⟨by omega, ⟨pairs, innerWeights_alternate pairs⟩, sum_innerWeights pairs⟩

theorem simpson_without_panels : validRange 1e-300 0.0 (1.0 : Float) = true ∧
    (0.0 : Float) < 1.0 ∧ (panels 1e-300 0.0 (1.0 : Float)).toNat = 0 ∧
    (match apply 1e-300 0.0 (1.0 : Float) (fun _ => .ok 0.0) .simpson with
      | .ok value => value.isNaN
      | .error _ => false) = true := by
  decide +kernel

end QuadratureRule

end FormulaNumerics
