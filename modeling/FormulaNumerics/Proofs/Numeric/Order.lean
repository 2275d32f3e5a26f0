import Mathlib
import FormulaNumerics.Numeric.Scalar

set_option autoImplicit false

namespace FormulaNumerics

open Float.Model Float.Model.UnpackedFloat

namespace Unpacked

section Places

-- A significand has 53 bits, unless the exponent is the least.
structure Regular (significand : Nat) (exponent : Int) : Prop where
  below : significand < 2 ^ 53
  least : -1074 ≤ exponent
  leading : exponent = -1074 ∨ 2 ^ 52 ≤ significand

def place (significand : Nat) (exponent : Int) : Int :=
  (exponent + 1074) * 2 ^ 52 + significand

def infinitePlace : Int := 2047 * 2 ^ 52

variable {m m' : Nat} {e e' : Int}

theorem Regular.place_nonneg (regular : Regular m e) : 0 ≤ place m e := by
  have least := regular.least
  unfold place
  omega

theorem Regular.place_pos (regular : Regular m e) (positive : 0 < m) : 0 < place m e := by
  have least := regular.least
  unfold place
  omega

theorem Regular.place_lt_infinitePlace (regular : Regular m e) (small : e ≤ 971) :
    place m e < infinitePlace := by
  have below := regular.below
  unfold place infinitePlace
  omega

theorem Regular.place_lt_place (regular : Regular m e) (regular' : Regular m' e')
    (less : e < e' ∨ e = e' ∧ m < m') : place m e < place m' e' := by
  obtain ⟨below, least, leading⟩ := regular
  obtain ⟨below', least', leading'⟩ := regular'
  unfold place
  omega

theorem Regular.place_compare (regular : Regular m e) (regular' : Regular m' e') :
    (compare e e').then (compare m m') = compare (place m e) (place m' e') := by
  rcases lt_trichotomy e e' with less | rfl | greater
  · rw [compare_lt_iff_lt.mpr less,
      compare_lt_iff_lt.mpr (regular.place_lt_place regular' (.inl less))]
    rfl
  · rw [compare_eq_iff_eq.mpr rfl]
    rcases lt_trichotomy m m' with less | rfl | greater
    · rw [compare_lt_iff_lt.mpr less,
        compare_lt_iff_lt.mpr (regular.place_lt_place regular' (.inr ⟨rfl, less⟩))]
      rfl
    · rw [compare_eq_iff_eq.mpr rfl, compare_eq_iff_eq.mpr rfl]
      rfl
    · rw [compare_gt_iff_gt.mpr greater,
        compare_gt_iff_gt.mpr (regular'.place_lt_place regular (.inr ⟨rfl, greater⟩))]
      rfl
  · rw [compare_gt_iff_gt.mpr greater,
      compare_gt_iff_gt.mpr (regular'.place_lt_place regular (.inl greater))]
    rfl

end Places

section Ranks

def rank : UnpackedFloat → Int
  | .notANumber => infinitePlace + 2 ^ 51
  | .infinity sign => sign.apply infinitePlace
  | .zero _ => 0
  | .finite sign significand exponent _ => sign.apply (place significand exponent)

def Stored : UnpackedFloat → Prop
  | .finite _ significand exponent _ => Regular significand exponent ∧ exponent ≤ 971
  | _ => True

theorem rank_between {u : UnpackedFloat} (stored : Stored u) (finite : u.isFinite = true) :
    -infinitePlace < rank u ∧ rank u < infinitePlace := by
  cases u with
  | notANumber => cases finite
  | infinity sign => cases finite
  | zero sign => exact ⟨by norm_num [rank, infinitePlace], by norm_num [rank, infinitePlace]⟩
  | finite sign m e positive =>
    have above := stored.1.place_nonneg
    have below := stored.1.place_lt_infinitePlace stored.2
    cases sign <;> simp only [rank, Sign.apply] <;> omega

theorem lt_eq_compare {i j : Int} (less : i < j) : some .lt = some (compare i j) :=
  congrArg some (compare_lt_iff_lt.mpr less).symm

theorem gt_eq_compare {i j : Int} (greater : j < i) : some .gt = some (compare i j) :=
  congrArg some (compare_gt_iff_gt.mpr greater).symm

theorem swap_compare (i j : Int) : (compare i j).swap = compare (-i) (-j) := by
  rw [← cmp_eq_compare, ← cmp_eq_compare, cmp_swap]
  exact (StrictAnti.cmp_map_eq (fun _ _ less => neg_lt_neg less) i j).symm

theorem compare_eq {a b : UnpackedFloat} (aStored : Stored a) (bStored : Stored b)
    (aNumber : a ≠ .notANumber) (bNumber : b ≠ .notANumber) :
    a.compare b = some (compare (rank a) (rank b)) := by
  cases a with
  | notANumber => exact absurd rfl aNumber
  | infinity s =>
    cases b with
    | notANumber => exact absurd rfl bNumber
    | infinity s' => cases s <;> cases s' <;> rfl
    | zero s' => cases s <;> rfl
    | finite s' m' e' positive' =>
      obtain ⟨above, below⟩ := rank_between bStored rfl
      cases s with
      | positive => exact gt_eq_compare below
      | negative => exact lt_eq_compare above
  | zero s =>
    cases b with
    | notANumber => exact absurd rfl bNumber
    | infinity s' => cases s' <;> rfl
    | zero s' => rfl
    | finite s' m' e' positive' =>
      have positive := bStored.1.place_pos positive'
      cases s' with
      | positive => exact lt_eq_compare positive
      | negative => exact gt_eq_compare (neg_lt_zero.mpr positive)
  | finite s m e positive =>
    have apart := aStored.1.place_pos positive
    cases b with
    | notANumber => exact absurd rfl bNumber
    | infinity s' =>
      obtain ⟨above, below⟩ := rank_between aStored rfl
      cases s' with
      | positive => exact lt_eq_compare below
      | negative => exact gt_eq_compare above
    | zero s' =>
      cases s with
      | positive => exact gt_eq_compare apart
      | negative => exact lt_eq_compare (neg_lt_zero.mpr apart)
    | finite s' m' e' positive' =>
      have apart' := bStored.1.place_pos positive'
      have same := aStored.1.place_compare bStored.1
      -- Two signs decide; where both are negative, the order of the places is reversed.
      cases s with
      | positive =>
        cases s' with
        | positive => exact congrArg some same
        | negative => exact gt_eq_compare ((neg_lt_zero.mpr apart').trans apart)
      | negative =>
        cases s' with
        | positive => exact lt_eq_compare ((neg_lt_zero.mpr apart).trans apart')
        | negative =>
          exact congrArg some ((congrArg Ordering.swap same).trans (swap_compare _ _))

end Ranks

section Bits

inductive Shape (sign : Sign) (biased fraction : Nat) : UnpackedFloat → Prop where
  | notANumber : Shape sign biased fraction .notANumber
  | infinity (greatest : biased = 2047) (plain : fraction = 0) :
      Shape sign biased fraction (.infinity sign)
  | zero (least : biased = 0) (plain : fraction = 0) : Shape sign biased fraction (.zero sign)
  | finite {m : Nat} {e : Int} (positive : 0 < m) (regular : Regular m e) (small : e ≤ 971)
      (same : place m e = biased * 2 ^ 52 + fraction) :
      Shape sign biased fraction (.finite sign m e positive)

theorem toNat_one_append {w : Nat} (fraction : BitVec w) :
    (1#1 ++ fraction).toNat = 2 ^ w + fraction.toNat := by
  rw [BitVec.toNat_append, ← Nat.shiftLeft_add_eq_or_of_lt fraction.isLt]
  simp [Nat.shiftLeft_eq]

theorem shape_unpack (bits : BitVec Format.binary64.numBits) :
    Shape (.ofBitVec (unpackSign bits)) (unpackExponent bits).toNat (unpackMantissa bits).toNat
      (UnpackedFloat.unpack .binary64 bits) := by
  have fraction : (unpackMantissa bits).toNat < 2 ^ 52 := (unpackMantissa bits).isLt
  have biased : (unpackExponent bits).toNat < 2 ^ 11 := (unpackExponent bits).isLt
  have bias : Format.binary64.exponentBias = 1023 := rfl
  rw [UnpackedFloat.unpack]
  split
  next infinite =>
    split
    next plain => exact .infinity (by simp [infinite]) (by simp [plain])
    next => exact .notANumber
  next finite =>
    split
    next subnormal =>
      have least : (unpackExponent bits).toNat = 0 := by simp [subnormal]
      split
      next plain => exact .zero least (by simp [plain])
      next =>
        refine .finite _ ⟨?_, ?_, ?_⟩ ?_ ?_
        all_goals simp only [least, bias, place]; omega
    next normal =>
      have notGreatest : (unpackExponent bits).toNat ≠ 2047 :=
        fun same => finite (BitVec.eq_of_toNat_eq same)
      have notLeast : (unpackExponent bits).toNat ≠ 0 :=
        fun same => normal (BitVec.eq_of_toNat_eq same)
      refine .finite _ ⟨?_, ?_, ?_⟩ ?_ ?_
      all_goals simp only [toNat_one_append, bias, place]; omega

theorem stored_toModel (x : Float) : Stored x.toModel.unpack := by
  have shape := shape_unpack x.toModel.toBits.toBitVec
  change Shape _ _ _ x.toModel.unpack at shape
  generalize x.toModel.unpack = u at shape ⊢
  cases shape with
  | notANumber => trivial
  | infinity greatest plain => trivial
  | zero least plain => trivial
  | finite positive regular small same => exact ⟨regular, small⟩

theorem rank_unpack {bits : BitVec Format.binary64.numBits}
    (number : UnpackedFloat.unpack .binary64 bits ≠ .notANumber) :
    rank (UnpackedFloat.unpack .binary64 bits) = (Sign.ofBitVec (unpackSign bits)).apply
      ((unpackExponent bits).toNat * 2 ^ 52 + (unpackMantissa bits).toNat) := by
  have shape := shape_unpack bits
  generalize UnpackedFloat.unpack .binary64 bits = u at shape number ⊢
  cases shape with
  | notANumber => exact absurd rfl number
  | infinity greatest plain =>
    rw [greatest, plain]
    rfl
  | zero least plain =>
    rw [least, plain]
    cases Sign.ofBitVec (unpackSign bits) <;> rfl
  | finite positive regular small same =>
    rw [rank, same]

theorem toNat_eq (bits : BitVec Format.binary64.numBits) :
    bits.toNat = (unpackSign bits).toNat * 2 ^ 63 + (unpackExponent bits).toNat * 2 ^ 52 +
      (unpackMantissa bits).toNat := by
  rw [unpackSign_def, unpackExponent_def, unpackMantissa_def]
  simp only [BitVec.extractLsb'_toNat, Nat.shiftRight_eq_div_pow]
  have bound := bits.isLt
  simp only [Format.numBits] at bound
  norm_num at bound ⊢
  omega

theorem binaryRank_eq (x : Float) : (binaryRank x : Int) = 2 ^ 63 +
    (Sign.ofBitVec (@unpackSign .binary64 x.toBits.toBitVec)).apply
      ((@unpackExponent .binary64 x.toBits.toBitVec).toNat * 2 ^ 52 +
        (@unpackMantissa .binary64 x.toBits.toBitVec).toNat) := by
  have parts : x.toBits.toNat = _ := toNat_eq x.toBits.toBitVec
  have fraction := (@unpackMantissa .binary64 x.toBits.toBitVec).isLt
  have biased := (@unpackExponent .binary64 x.toBits.toBitVec).isLt
  generalize @unpackMantissa .binary64 x.toBits.toBitVec = m at *
  generalize @unpackExponent .binary64 x.toBits.toBitVec = e at *
  generalize @unpackSign .binary64 x.toBits.toBitVec = s at *
  simp only at fraction biased
  unfold binaryRank
  -- Behind a set sign bit the ranks count down.
  obtain rfl | rfl := s.eq_zero_or_eq_one
  · simp [Sign.ofBitVec, Sign.apply, parts]
    omega
  · simp [Sign.ofBitVec, Sign.apply, parts]
    omega

theorem unpack_ne_notANumber {x : Float} (number : x.isNaN = false) :
    x.toModel.unpack ≠ .notANumber :=
  fun none => absurd (isNaN_iff.mpr none) (Bool.eq_false_iff.mp number)

theorem binaryRank_eq_rank {x : Float} (number : x.isNaN = false) :
    (binaryRank x : Int) = 2 ^ 63 + rank x.toModel.unpack := by
  rw [binaryRank_eq]
  exact congrArg (2 ^ 63 + ·) (rank_unpack (unpack_ne_notANumber number)).symm

end Bits

end Unpacked

open Unpacked

section Comparisons

variable {x y : Float} (xNumber : x.isNaN = false) (yNumber : y.isNaN = false)

include xNumber yNumber

theorem compare_unpack : x.toModel.unpack.compare y.toModel.unpack =
    some (compare (binaryRank x : Int) (binaryRank y)) := by
  have shifted (i j : Int) : compare (2 ^ 63 + i) (2 ^ 63 + j) = compare i j := by
    rw [← cmp_eq_compare, ← cmp_eq_compare]
    exact StrictMono.cmp_map_eq (fun _ _ less => Int.add_lt_add_left less _) i j
  rw [binaryRank_eq_rank xNumber, binaryRank_eq_rank yNumber, shifted]
  exact compare_eq (stored_toModel x) (stored_toModel y) (unpack_ne_notANumber xNumber)
    (unpack_ne_notANumber yNumber)

theorem lt_iff_binaryRank_lt : x < y ↔ binaryRank x < binaryRank y := by
  change decide ((x.toModel.unpack.compare y.toModel.unpack == some .lt) = true) = true ↔ _
  rw [compare_unpack xNumber yNumber, decide_eq_true_iff, beq_iff_eq, Option.some.injEq,
    compare_lt_iff_lt, Int.ofNat_lt]

theorem le_iff_binaryRank_le : x ≤ y ↔ binaryRank x ≤ binaryRank y := by
  change decide ((x.toModel.unpack.compare y.toModel.unpack).any (·.isLE) = true) = true ↔ _
  rw [compare_unpack xNumber yNumber, decide_eq_true_iff, Option.any_some,
    Ordering.isLE_iff_ne_gt, ← ne_eq, compare_le_iff_le, Int.ofNat_le]

theorem beq_iff_binaryRank_eq : (x == y) = true ↔ binaryRank x = binaryRank y := by
  change (x.toModel.unpack.compare y.toModel.unpack == some .eq) = true ↔ _
  rw [compare_unpack xNumber yNumber, beq_iff_eq, Option.some.injEq, compare_eq_iff_eq,
    Int.ofNat_inj]

end Comparisons

section Kinds

variable {x : Float}

theorem binaryRank_of_isNaN (none : x.isNaN = true) : binaryRank x = 2 ^ 63 + 4095 * 2 ^ 51 := by
  rw [Float.isNaN_eq_decide_eq_nan, decide_eq_true_iff] at none
  subst none
  decide +kernel

theorem isNaN_eq_false_of_binaryRank_le (small : binaryRank x ≤ 2 ^ 63 + 2047 * 2 ^ 52) :
    x.isNaN = false := by
  rw [Bool.eq_false_iff]
  intro none
  have rank := binaryRank_of_isNaN none
  omega

theorem isNaN_eq_false_of_isFinite (finite : x.isFinite = true) : x.isNaN = false := by
  rw [Bool.eq_false_iff]
  intro none
  rw [Float.isNaN_eq_decide_eq_nan, decide_eq_true_iff] at none
  subst none
  exact absurd finite (by decide +kernel)

theorem isFinite_iff_binaryRank : x.isFinite = true ↔
    2 ^ 63 - 2047 * 2 ^ 52 < binaryRank x ∧ binaryRank x < 2 ^ 63 + 2047 * 2 ^ 52 := by
  constructor
  next =>
    intro finite
    have ranked := binaryRank_eq_rank (isNaN_eq_false_of_isFinite finite)
    obtain ⟨above, below⟩ := rank_between (stored_toModel x) finite
    unfold infinitePlace at above below
    omega
  next =>
    rintro ⟨above, below⟩
    have number := isNaN_eq_false_of_binaryRank_le below.le
    have ranked := binaryRank_eq_rank number
    have some := unpack_ne_notANumber number
    change x.toModel.unpack.isFinite = true
    generalize x.toModel.unpack = u at ranked some
    cases u with
    | notANumber => exact absurd rfl some
    | infinity sign =>
      cases sign <;> simp only [rank, Sign.apply, infinitePlace] at ranked <;> omega
    | zero sign => rfl
    | finite sign m e positive => rfl

end Kinds

end FormulaNumerics
