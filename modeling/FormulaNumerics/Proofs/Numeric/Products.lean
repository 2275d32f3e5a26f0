import FormulaNumerics.Proofs.Numeric.Rounding

set_option autoImplicit false

namespace FormulaNumerics

open Float.Model Float.Model.UnpackedFloat

namespace Unpacked

section Vanishing

variable {m m' n M : Nat} {e e' E : Int}

theorem inexact_iff (m n : Nat) :
    ((shortened m n).roundBit || (shortened m n).stickyBit) = true ↔ m % 2 ^ n ≠ 0 := by
  induction n with
  | zero =>
    rw [Nat.pow_zero, Nat.mod_one]
    exact iff_of_false Bool.false_ne_true (not_not.mpr rfl)
  | succ n ih =>
    have split := Nat.mod_pow_succ (b := 2) (k := n) (x := m)
    have power := Nat.two_pow_pos n
    rw [shortened_succ, ExtendedMantissa.shiftRightOne, mantissa_shortened, Bool.or_eq_true, ih,
      split]
    rcases Nat.mod_two_eq_zero_or_one (m / 2 ^ n) with even | odd
    · simp [even]
    · simp [odd]

theorem roundedMantissa_eq_zero_iff (bits : ExtendedMantissa) :
    bits.roundedMantissa = 0 ↔
      bits.mantissa = 0 ∧ ¬(bits.roundBit = true ∧ bits.stickyBit = true) := by
  obtain ⟨m, round, sticky⟩ := bits
  cases round <;> cases sticky <;>
    simp [ExtendedMantissa.roundedMantissa, ExtendedMantissa.accuracy, Accuracy.roundToNearestEven]
  omega

theorem rounded_eq_zero_iff (positive : 0 < M) (n : Nat) :
    (shortened M n).roundedMantissa = 0 ↔ 2 * M ≤ 2 ^ n := by
  cases n with
  | zero =>
    have whole : (shortened M 0).roundedMantissa = M := rfl
    rw [whole, Nat.pow_zero]
    omega
  | succ n =>
    have lost := inexact_iff M n
    have parts := Nat.div_add_mod M (2 ^ n)
    have rest := Nat.mod_lt M (Nat.two_pow_pos n)
    rw [roundedMantissa_eq_zero_iff, shortened_succ, ExtendedMantissa.shiftRightOne,
      mantissa_shortened, lost, Nat.pow_succ]
    simp only [bne_iff_ne]
    -- The first of the bits that are lost is half of the last that is kept.
    generalize M / 2 ^ n = q at parts
    obtain rfl | rfl | more : q = 0 ∨ q = 1 ∨ 2 ≤ q := by omega
    next => omega
    next => omega
    next =>
      have large : 2 ^ n * 2 ≤ 2 ^ n * q := Nat.mul_le_mul_left _ more
      omega

theorem rounded_vanishes_iff (positive : 0 < M) (least : -1074 ≤ E + n)
    (kept : E + n = -1074 ∨ M.log2 = 52 + n) :
    (shortened M n).roundedMantissa = 0 ↔ value M E ≤ value 1 (-1075) := by
  rw [rounded_eq_zero_iff positive]
  obtain last | long := kept
  next =>
    have halved : value M E = value (M * 2 ^ 1) (E - 1) := by
      rw [value_mul_pow, Nat.cast_one, sub_add_cancel]
    have half : value 1 (-1075) = value (1 * 2 ^ n) (E - 1) := by
      rw [value_mul_pow]
      congr 1
      omega
    rw [halved, half, value_le_value_iff]
    omega
  next =>
    have leading : 2 ^ 52 * 2 ^ n ≤ M := by
      rw [← Nat.pow_add, ← long]
      exact Nat.log2_self_le positive.ne'
    have above : value 1 (-1075) < value M E := calc
      value 1 (-1075) < value (2 ^ 52) (E + n) :=
        value_lt_of_exponent_lt (by norm_num) (Nat.le_refl _) (by omega)
      _ = value (2 ^ 52 * 2 ^ n) E := (value_mul_pow _ n E).symm
      _ ≤ value M E := value_le_value_iff.mpr leading
    have power := Nat.two_pow_pos n
    exact iff_of_false (by omega) (not_le.mpr above)

theorem Regular.place_eq_zero_iff (regular : Regular m e) : place m e = 0 ↔ m = 0 := by
  obtain ⟨below, least, leading⟩ := regular
  unfold place
  omega

-- 6369051672525772 is the whole part of the root of `2 ^ 105`.
theorem Regular.square_vanishes_iff (regular : Regular m e) :
    value m e * value m e ≤ value 1 (-1075) ↔ place m e ≤ place 6369051672525772 (-590) := by
  have last : Regular 6369051672525772 (-590) := ⟨by norm_num, by norm_num, .inr (by norm_num)⟩
  have first : Regular 6369051672525773 (-590) := ⟨by norm_num, by norm_num, .inr (by norm_num)⟩
  have half : value 1 (-1075) = value (1 * 2 ^ 105) (-590 + -590) := by
    rw [value_mul_pow]
    rfl
  by_cases small : place m e ≤ place 6369051672525772 (-590)
  next =>
    refine iff_of_true ?_ small
    have below := regular.value_le_of_place_le last small
    calc
      value m e * value m e ≤ value 6369051672525772 (-590) * value 6369051672525772 (-590) :=
        mul_self_le_mul_self (value_nonneg m e) below
      _ = value (6369051672525772 * 6369051672525772) (-590 + -590) := value_mul_value _ _ _ _
      _ ≤ value (1 * 2 ^ 105) (-590 + -590) := value_le_value_iff.mpr (by norm_num)
      _ = value 1 (-1075) := half.symm
  next =>
    refine iff_of_false (not_le.mpr ?_) small
    have above := first.value_le_of_place_le regular (by unfold place at small ⊢; omega)
    calc
      value 1 (-1075) = value (1 * 2 ^ 105) (-590 + -590) := half
      _ < value (6369051672525773 * 6369051672525773) (-590 + -590) :=
        value_lt_value_iff.mpr (by norm_num)
      _ = value 6369051672525773 (-590) * value 6369051672525773 (-590) :=
        (value_mul_value _ _ _ _).symm
      _ ≤ value m e * value m e := mul_self_le_mul_self (value_nonneg _ _) above

end Vanishing

section Products

def magnitude : UnpackedFloat → ℚ
  | .finite _ significand exponent _ => value significand exponent
  | _ => 0

theorem Regular.mul_room {m m' : Nat} {e e' : Int} (regular : Regular m e)
    (regular' : Regular m' e') (positive : 0 < m) (positive' : 0 < m') :
    e + e' ≤ Format.binary64.targetExponent (totalExponent (m * m') (e + e')) := by
  have some : 0 < m * m' := Nat.mul_pos positive positive'
  rw [targetExponent_eq]
  obtain full | full : (e = -1074 ∧ e' = -1074) ∨ 2 ^ 52 ≤ m * m' := by
    obtain least | leading := regular.leading
    · obtain least' | leading' := regular'.leading
      · exact .inl ⟨least, least'⟩
      · exact .inr (Nat.le_trans leading' (Nat.le_mul_of_pos_left _ positive))
    · exact .inr (Nat.le_trans leading (Nat.le_mul_of_pos_right _ positive'))
  next => omega
  next =>
    have long : 52 ≤ (m * m').log2 := (Nat.le_log2 some.ne').mpr full
    omega

theorem rank_mul {u v : UnpackedFloat} (uStored : Stored u) (vStored : Stored v)
    (uFinite : u.isFinite = true) (vFinite : v.isFinite = true) :
    Ranked (u.mul .binary64 v) ∧
      (rank (u.mul .binary64 v) = 0 ↔ magnitude u * magnitude v ≤ value 1 (-1075)) := by
  have least : 0 ≤ value 1 (-1075) := value_nonneg 1 (-1075)
  cases u with
  | notANumber => cases uFinite
  | infinity sign => cases uFinite
  | zero sign =>
    cases v with
    | notANumber => cases vFinite
    | infinity sign' => cases vFinite
    | zero sign' => exact ⟨trivial, iff_of_true rfl (by simpa [magnitude] using least)⟩
    | finite sign' m' e' positive' =>
      exact ⟨trivial, iff_of_true rfl (by simpa [magnitude] using least)⟩
  | finite sign m e positive =>
    cases v with
    | notANumber => cases vFinite
    | infinity sign' => cases vFinite
    | zero sign' => exact ⟨trivial, iff_of_true rfl (by simpa [magnitude] using least)⟩
    | finite sign' m' e' positive' =>
      have some : 0 < m * m' := Nat.mul_pos positive positive'
      obtain ⟨n, k, t, result, last, kept, regular, same⟩ := roundWithAccuracy_shortened
        (sign * sign') some (uStored.1.mul_room vStored.1 positive positive')
      change Ranked (roundWithAccuracy _ _ _ _ _) ∧ (rank (roundWithAccuracy _ _ _ _ _) = 0 ↔ _)
      rw [result, rank_finiteOrZero regular]
      refine ⟨ranked_finiteOrZero regular, ?_⟩
      calc
        (sign * sign').apply (place k t) = 0 ↔ place k t = 0 := by
          cases sign * sign' <;> simp only [Sign.apply, neg_eq_zero]
        _ ↔ value k t = 0 := regular.place_eq_zero_iff.trans value_eq_zero_iff.symm
        _ ↔ (shortened (m * m') n).roundedMantissa = 0 := by rw [same, value_eq_zero_iff]
        _ ↔ magnitude _ * magnitude _ ≤ value 1 (-1075) := by
          rw [rounded_vanishes_iff some last kept, magnitude, magnitude, value_mul_value]

end Products

end Unpacked

open Unpacked

theorem beq_zero_iff_binaryRank (x : Float) : (x == Scalar.zero) = true ↔ binaryRank x = 2 ^ 63 := by
  have origin : binaryRank (Scalar.zero : Float) = 2 ^ 63 := by decide +kernel
  cases number : x.isNaN with
  | true =>
    have beyond := binaryRank_of_isNaN number
    rw [Float.isNaN_eq_decide_eq_nan, decide_eq_true_iff] at number
    subst number
    exact iff_of_false (by decide +kernel) (by omega)
  | false => rw [beq_iff_binaryRank_eq number (by decide +kernel), origin]

theorem beq_zero_iff_unpack (x : Float) :
    (x == Scalar.zero) = true ↔ ∃ sign, x.toModel.unpack = .zero sign := by
  change (x.toModel.unpack.compare (.zero .positive) == some .eq) = true ↔ _
  cases x.toModel.unpack with
  | notANumber => exact iff_of_false Bool.false_ne_true (fun ⟨_, same⟩ => nomatch same)
  | infinity sign =>
    refine iff_of_false ?_ (fun ⟨_, same⟩ => nomatch same)
    cases sign <;> exact Bool.false_ne_true
  | zero sign => exact iff_of_true rfl ⟨sign, rfl⟩
  | finite sign m e positive =>
    refine iff_of_false ?_ (fun ⟨_, same⟩ => nomatch same)
    cases sign <;> exact Bool.false_ne_true

theorem div_not_finite {x y : Float} (vanishes : (y == Scalar.zero) = true) :
    (x / y).isFinite = false := by
  obtain ⟨sign, same⟩ := (beq_zero_iff_unpack y).mp vanishes
  have quotient : x / y =
      Float.ofModel (Float.Model.pack (x.toModel.unpack.div .binary64 (.zero sign))) := by
    rw [← same]
    rfl
  have infinite (sign' : Sign) :
      (Float.ofModel (Float.Model.pack (.infinity sign'))).isFinite = false := by
    cases sign' <;> decide +kernel
  have none : (Float.ofModel (Float.Model.pack .notANumber)).isFinite = false := by decide +kernel
  rw [quotient]
  cases x.toModel.unpack with
  | notANumber => exact none
  | infinity sign' => exact infinite _
  | zero sign' => exact none
  | finite sign' m e positive => exact infinite _

theorem mul_beq_zero_iff {x y : Float} (xFinite : x.isFinite = true) (yFinite : y.isFinite = true) :
    (x * y == Scalar.zero) = true ↔
      magnitude x.toModel.unpack * magnitude y.toModel.unpack ≤ value 1 (-1075) := by
  obtain ⟨ranked, vanishes⟩ := rank_mul (stored_toModel x) (stored_toModel y) xFinite yFinite
  have packed := binaryRank_pack ranked
  change (binaryRank (x * y) : Int) = _ at packed
  rw [← vanishes, beq_zero_iff_binaryRank]
  unfold clamp infinitePlace at packed
  omega

end FormulaNumerics
