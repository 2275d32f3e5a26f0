import FormulaNumerics.Numeric.Difference
import FormulaNumerics.Proofs.Numeric.Products

set_option autoImplicit false

namespace FormulaNumerics

open Float.Model Float.Model.UnpackedFloat Unpacked

namespace DifferenceFormula

open Scalar

-- The greatest number whose square is rounded to zero.
def greatestVanishing : Float := 1.5717277847026285e-162

section Steps

variable {step point : Float}

theorem usable_of_finite (nonzero : (step == Scalar.zero) = false)
    (stepFinite : step.isFinite = true) (pointFinite : point.isFinite = true) :
    checkStep step point = .ok () := by
  have finite : ¬(!Scalar.isFinite step || !Scalar.isFinite point) = true := by
    simp [Scalar.isFinite, stepFinite, pointFinite]
  rw [checkStep, if_neg (Bool.eq_false_iff.mp nonzero), if_neg finite]

theorem finite_of_usable (usable : checkStep step point = .ok ()) :
    ∃ (sign : Sign) (m : Nat) (e : Int) (positive : 0 < m),
      step.toModel.unpack = .finite sign m e positive ∧ Regular m e := by
  have nonzero : ¬(step == Scalar.zero) = true := by
    intro isZero
    rw [checkStep, if_pos isZero] at usable
    cases usable
  have finite : step.isFinite = true := by
    by_contra infinite
    rw [checkStep, if_neg nonzero, if_pos (by simp [Scalar.isFinite, infinite])] at usable
    cases usable
  have stored := stored_toModel step
  rw [beq_zero_iff_unpack] at nonzero
  change step.toModel.unpack.isFinite = true at finite
  generalize step.toModel.unpack = u at nonzero stored finite ⊢
  cases u with
  | notANumber => cases finite
  | infinity sign => cases finite
  | zero sign => exact absurd ⟨sign, rfl⟩ nonzero
  | finite sign m e positive => exact ⟨sign, m, e, positive, rfl, stored.1⟩

variable (usable : checkStep step point = .ok ())

include usable

theorem isFinite_of_usable : step.isFinite = true := by
  obtain ⟨sign, m, e, positive, same, -⟩ := finite_of_usable usable
  change step.toModel.unpack.isFinite = true
  rw [same]
  rfl

theorem multiple_of_usable (factor : Float) (finite : factor.isFinite = true)
    (whole : 1 ≤ magnitude factor.toModel.unpack) : (factor * step == Scalar.zero) = false := by
  obtain ⟨sign, m, e, positive, same, regular⟩ := finite_of_usable usable
  have least : Regular 1 (-1074) := ⟨by norm_num, by norm_num, .inl rfl⟩
  have first : place 1 (-1074) ≤ place m e := regular.place_pos positive
  rw [Bool.eq_false_iff, Ne, mul_beq_zero_iff finite (isFinite_of_usable usable), same, not_le]
  calc
    value 1 (-1075) < value (1 * 2 ^ 1) (-1075) := value_lt_value_iff.mpr (by norm_num)
    _ = value 1 (-1074) := value_mul_pow 1 1 (-1075)
    _ ≤ value m e := least.value_le_of_place_le regular first
    _ ≤ magnitude factor.toModel.unpack * value m e :=
      le_mul_of_one_le_left (value_nonneg m e) whole

theorem square_vanishes_iff : (step * step == Scalar.zero) = true ↔
    -greatestVanishing ≤ step ∧ step ≤ greatestVanishing := by
  obtain ⟨sign, m, e, positive, same, regular⟩ := finite_of_usable usable
  have finite := isFinite_of_usable usable
  have number := isNaN_eq_false_of_isFinite finite
  have ranked := binaryRank_eq_rank number
  have nonneg := regular.place_nonneg
  have above : (binaryRank greatestVanishing : Int) = 2 ^ 63 + place 6369051672525772 (-590) := by
    decide +kernel
  have below : (binaryRank (-greatestVanishing) : Int) = 2 ^ 63 - place 6369051672525772 (-590) := by
    decide +kernel
  rw [mul_beq_zero_iff finite finite, le_iff_binaryRank_le (by decide +kernel) number,
    le_iff_binaryRank_le number (by decide +kernel), same]
  rw [same] at ranked
  refine regular.square_vanishes_iff.trans ?_
  cases sign <;> simp only [rank, Sign.apply] at ranked <;> omega

theorem divisor_vanishes_iff (formula : DifferenceFormula) :
    ((formula.divisor step == Scalar.zero) = true ↔
      formula = .second ∧ -greatestVanishing ≤ step ∧ step ≤ greatestVanishing) ∧
    ((formula.divisor step == Scalar.zero) = true → ∀ sample value,
      formula.apply step point sample = .ok value → value.isFinite = false) := by
  have two : magnitude (Scalar.two : Float).toModel.unpack = value (2 ^ 52) (-51) := rfl
  have twelve : magnitude (Scalar.ofCount 12 : Float).toModel.unpack = value (3 * 2 ^ 51) (-49) :=
    rfl
  constructor
  · cases formula with
    | threePoint =>
      have kept := multiple_of_usable usable Scalar.two (by decide +kernel)
        (by norm_num [two, value])
      simp [divisor, kept]
    | fivePoint =>
      have kept := multiple_of_usable usable (Scalar.ofCount 12) (by decide +kernel)
        (by norm_num [twelve, value])
      simp [divisor, kept]
    | second => exact (square_vanishes_iff usable).trans (and_iff_right rfl).symm
  · intro vanishes sample value given
    rw [formula.apply_of_usable usable] at given
    cases taken : formula.weighted step point sample with
    | error fault => simp [taken, bind, Except.bind] at given
    | ok sum =>
      rw [taken] at given
      obtain rfl : sum / formula.divisor step = value := Except.ok.inj given
      exact div_not_finite vanishes

end Steps

theorem divisor_vanishes_at_bound : checkStep greatestVanishing 1 = .ok () ∧
    (divisor greatestVanishing .second == Scalar.zero) = true ∧
    ∀ sample value, apply .second greatestVanishing 1 sample = .ok value →
      value.isFinite = false := by
  have usable : checkStep greatestVanishing 1 = .ok () :=
    usable_of_finite (by decide +kernel) (by decide +kernel) (by decide +kernel)
  obtain ⟨vanishes, infinite⟩ := divisor_vanishes_iff usable .second
  have zero := vanishes.mpr ⟨rfl, by decide +kernel, by decide +kernel⟩
  exact ⟨usable, zero, infinite zero⟩

-- A straight line has no curvature, but what the formula gives for it is not a number.
theorem curvature_of_line : checkStep 1e-170 0 = .ok () ∧
    (divisor (1e-170 : Float) .second == Scalar.zero) = true ∧
    ∃ value : Float, apply .second 1e-170 0 (fun x => .ok x) = .ok value ∧ value.isNaN = true := by
  have usable : checkStep (1e-170 : Float) 0 = .ok () :=
    usable_of_finite (by decide +kernel) (by decide +kernel) (by decide +kernel)
  refine ⟨usable, by decide +kernel, _, apply_of_usable .second usable _, ?_⟩
  decide +kernel

end DifferenceFormula

end FormulaNumerics
