import FormulaNumerics.Proofs.Numeric.Order

set_option autoImplicit false

namespace FormulaNumerics

open Float.Model Float.Model.UnpackedFloat

namespace Unpacked

section Significands

def shortened (m n : Nat) : ExtendedMantissa :=
  ExtendedMantissa.ofMantissaAndAccuracy m .exact >>> n

theorem shortened_succ (m n : Nat) : shortened m (n + 1) = (shortened m n).shiftRightOne := rfl

theorem mantissa_shortened (m n : Nat) : (shortened m n).mantissa = m / 2 ^ n := by
  induction n with
  | zero => exact (Nat.div_one m).symm
  | succ n ih =>
    rw [shortened_succ, ExtendedMantissa.shiftRightOne, ih, Nat.div_div_eq_div_mul, Nat.pow_succ]

theorem lt_of_roundBit {m n : Nat} (round : (shortened m n).roundBit = true) :
    m / 2 ^ n * 2 ^ n < m := by
  cases n with
  | zero => cases round
  | succ n =>
    have odd : m / 2 ^ n % 2 = 1 := by
      simpa [shortened_succ, ExtendedMantissa.shiftRightOne, mantissa_shortened] using round
    have half : m / 2 ^ (n + 1) * 2 < m / 2 ^ n := by
      rw [Nat.pow_succ, ← Nat.div_div_eq_div_mul]
      omega
    calc
      m / 2 ^ (n + 1) * 2 ^ (n + 1) = m / 2 ^ (n + 1) * 2 * 2 ^ n := by ring
      _ < m / 2 ^ n * 2 ^ n := Nat.mul_lt_mul_of_pos_right half (Nat.two_pow_pos n)
      _ ≤ m := Nat.div_mul_le_self m (2 ^ n)

theorem le_roundedMantissa (bits : ExtendedMantissa) : bits.mantissa ≤ bits.roundedMantissa := by
  obtain ⟨m, round, sticky⟩ := bits
  cases round <;> cases sticky <;>
    simp [ExtendedMantissa.roundedMantissa, ExtendedMantissa.accuracy, Accuracy.roundToNearestEven]

theorem roundedMantissa_le (bits : ExtendedMantissa) :
    bits.roundedMantissa ≤ bits.mantissa + 1 ∧
      (bits.roundBit = false → bits.roundedMantissa = bits.mantissa) := by
  obtain ⟨m, round, sticky⟩ := bits
  cases round <;> cases sticky <;>
    simp [ExtendedMantissa.roundedMantissa, ExtendedMantissa.accuracy, Accuracy.roundToNearestEven]
  omega

variable {m n k : Nat}

theorem le_rounded (below : k * 2 ^ n ≤ m) : k ≤ (shortened m n).roundedMantissa := by
  refine Nat.le_trans ?_ (le_roundedMantissa _)
  rw [mantissa_shortened]
  exact (Nat.le_div_iff_mul_le (Nat.two_pow_pos n)).mpr below

theorem rounded_le (above : m ≤ k * 2 ^ n) : (shortened m n).roundedMantissa ≤ k := by
  have quotient : m / 2 ^ n ≤ k := Nat.div_le_of_le_mul (by rwa [Nat.mul_comm])
  obtain ⟨bound, kept⟩ := roundedMantissa_le (shortened m n)
  rw [mantissa_shortened] at bound kept
  by_cases less : m / 2 ^ n < k
  next => omega
  next =>
    have same : m / 2 ^ n = k := by omega
    have round : (shortened m n).roundBit = false := by
      rw [Bool.eq_false_iff]
      intro lost
      have inexact := lt_of_roundBit lost
      rw [same] at inexact
      omega
    rw [kept round, same]

theorem log2_mul_two_pow (positive : 0 < m) (n : Nat) : (m * 2 ^ n).log2 = m.log2 + n := by
  have nonzero : m ≠ 0 := Nat.pos_iff_ne_zero.mp positive
  refine (Nat.log2_eq_iff (Nat.mul_ne_zero nonzero (Nat.two_pow_pos n).ne')).mpr ⟨?_, ?_⟩
  · rw [Nat.pow_add]
    exact Nat.mul_le_mul_right _ (Nat.log2_self_le nonzero)
  · rw [Nat.add_right_comm, Nat.pow_add]
    exact Nat.mul_lt_mul_of_pos_right Nat.lt_log2_self (Nat.two_pow_pos n)

end Significands

section Values

def value (significand : Nat) (exponent : Int) : ℚ :=
  significand * 2 ^ exponent

theorem value_mul_pow (m n : Nat) (e : Int) : value (m * 2 ^ n) e = value m (e + n) := by
  unfold value
  rw [zpow_add₀ (by norm_num), zpow_natCast]
  push_cast
  ring

theorem value_nonneg (m : Nat) (e : Int) : 0 ≤ value m e :=
  mul_nonneg m.cast_nonneg (by positivity)

theorem value_mul_value (m m' : Nat) (e e' : Int) :
    value m e * value m' e' = value (m * m') (e + e') := by
  unfold value
  rw [zpow_add₀ two_ne_zero, Nat.cast_mul]
  ring

variable {m m' : Nat} {e e' : Int}

theorem value_eq_zero_iff : value m e = 0 ↔ m = 0 := by
  have power : (2 : ℚ) ^ e ≠ 0 := zpow_ne_zero e two_ne_zero
  rw [value, mul_eq_zero, or_iff_left power, Nat.cast_eq_zero]

theorem value_le_value_iff : value m e ≤ value m' e ↔ m ≤ m' := by
  unfold value
  rw [mul_le_mul_iff_left₀ (by positivity), Nat.cast_le]

theorem value_lt_value_iff : value m e < value m' e ↔ m < m' := by
  rw [← not_le, value_le_value_iff, not_le]

theorem value_lt_of_exponent_lt (below : m < 2 ^ 53) (leading : 2 ^ 52 ≤ m') (less : e < e') :
    value m e < value m' e' := by
  obtain ⟨n, rfl⟩ : ∃ n : Nat, e' = e + 1 + n := ⟨(e' - (e + 1)).toNat, by omega⟩
  calc
    value m e < value (2 ^ 52 * 2 ^ 1) e := value_lt_value_iff.mpr below
    _ = value (2 ^ 52) (e + 1) := value_mul_pow _ 1 e
    _ ≤ value (m' * 2 ^ n) (e + 1) :=
      value_le_value_iff.mpr (Nat.le_trans leading (Nat.le_mul_of_pos_right m' (Nat.two_pow_pos n)))
    _ = value m' (e + 1 + n) := value_mul_pow _ n _

theorem Regular.place_le_of_value_le (regular : Regular m e) (regular' : Regular m' e')
    (less : value m e ≤ value m' e') : place m e ≤ place m' e' := by
  obtain ⟨below, least, leading⟩ := regular
  obtain ⟨below', least', leading'⟩ := regular'
  by_contra greater
  have order : e' < e ∨ e' = e ∧ m' < m := by
    unfold place at greater
    omega
  obtain lower | ⟨rfl, lower⟩ := order
  next =>
    have full := leading.resolve_left (by omega)
    exact not_lt.mpr less (value_lt_of_exponent_lt below' full lower)
  next => exact not_lt.mpr less (value_lt_value_iff.mpr lower)

theorem Regular.value_le_of_place_le (regular : Regular m e) (regular' : Regular m' e')
    (less : place m e ≤ place m' e') : value m e ≤ value m' e' := by
  obtain ⟨below, least, leading⟩ := regular
  obtain ⟨below', least', leading'⟩ := regular'
  have order : e < e' ∨ e = e' ∧ m ≤ m' := by
    unfold place at less
    omega
  obtain lower | ⟨rfl, lower⟩ := order
  next => exact (value_lt_of_exponent_lt below (leading'.resolve_left (by omega)) lower).le
  next => exact value_le_value_iff.mpr lower

end Values

section Rounding

-- No number lies between an exact value and what it is rounded to.
structure Rounded (number : ℚ) (significand : Nat) (exponent : Int) : Prop where
  regular : Regular significand exponent
  below : ∀ (m : Nat) (e : Int), Regular m e → value m e ≤ number →
    value m e ≤ value significand exponent
  above : ∀ (m : Nat) (e : Int), Regular m e → number ≤ value m e →
    value significand exponent ≤ value m e

def finiteOrZero (sign : Sign) (significand : Nat) (exponent : Int) : UnpackedFloat :=
  if none : significand = 0 then .zero sign
  else .finite sign significand exponent (Nat.pos_of_ne_zero none)

variable {m n k M R : Nat} {e E t : Int}

theorem targetExponent_eq (m : Nat) (e : Int) :
    Format.binary64.targetExponent (totalExponent m e) = max (m.log2 + e - 52) (-1074) := by
  have least : Format.binary64.minExponent = -1074 := rfl
  have bits : Format.binary64.mantissaBits = 53 := rfl
  rw [Format.targetExponent, totalExponent, least, bits]
  congr 1
  omega

theorem shiftToTargetExponent_eq
    (room : E ≤ Format.binary64.targetExponent (totalExponent M E)) :
    shiftToTargetExponent .binary64 M E .exact =
      (shortened M (Format.binary64.targetExponent (totalExponent M E) - E).toNat,
        Format.binary64.targetExponent (totalExponent M E)) := by
  unfold shiftToTargetExponent shiftToExponent shortened
  simp only [Prod.mk.injEq, true_and]
  omega

-- Rounding up can give one bit too many. It is a zero and is shifted out.
theorem renormalized (least : -1074 ≤ t) (bound : R ≤ 2 ^ 53)
    (leading : t = -1074 ∨ 2 ^ 52 ≤ R) :
    ∃ (m : Nat) (e : Int), (shiftToTargetExponent .binary64 R t .exact).1.mantissa = m ∧
      (shiftToTargetExponent .binary64 R t .exact).2 = e ∧
      Regular m e ∧ value m e = value R t := by
  have long : t = -1074 ∨ 52 ≤ R.log2 :=
    leading.imp_right fun full => (Nat.le_log2 (by omega)).mpr full
  have room : t ≤ Format.binary64.targetExponent (totalExponent R t) := by
    rw [targetExponent_eq]
    omega
  rw [shiftToTargetExponent_eq room, targetExponent_eq]
  simp only [mantissa_shortened]
  by_cases full : R = 2 ^ 53
  next =>
    subst full
    have target : max (((2 ^ 53).log2 : Nat) + t - 52) (-1074) = t + 1 := by
      rw [Nat.log2_two_pow]
      omega
    have shift : (t + 1 - t).toNat = 1 := by omega
    rw [target, shift]
    exact ⟨2 ^ 52, t + 1, by norm_num, rfl, ⟨by norm_num, by omega, .inr (Nat.le_refl _)⟩,
      (value_mul_pow (2 ^ 52) 1 t).symm⟩
  next =>
    have few : R.log2 ≤ 52 := by
      by_cases zero : R = 0
      · simp [zero]
      · exact Nat.le_of_lt_succ ((Nat.log2_lt zero).mpr (by omega))
    have target : max ((R.log2 : Int) + t - 52) (-1074) = t := by omega
    rw [target, sub_self, Int.toNat_zero, Nat.pow_zero, Nat.div_one]
    exact ⟨R, t, rfl, rfl, ⟨by omega, least, leading⟩, rfl⟩

-- Multiples of the last bit that is kept keep their order with the value.
theorem rounded_of_renormalized {m : Nat} {e : Int} (positive : 0 < M)
    (kept : E + n = -1074 ∨ M.log2 = 52 + n) (regular : Regular m e)
    (same : value m e = value (shortened M n).roundedMantissa (E + n)) :
    Rounded (value M E) m e := by
  have nonzero : M ≠ 0 := Nat.pos_iff_ne_zero.mp positive
  have lower {k : Nat} (below : value k (E + n) ≤ value M E) :
      value k (E + n) ≤ value m e := by
    rw [← value_mul_pow, value_le_value_iff] at below
    rw [same, value_le_value_iff]
    exact le_rounded below
  have upper {k : Nat} (above : value M E ≤ value k (E + n)) :
      value m e ≤ value k (E + n) := by
    rw [← value_mul_pow, value_le_value_iff] at above
    rw [same, value_le_value_iff]
    exact rounded_le above
  have apart {m' : Nat} {e' : Int} (regular' : Regular m' e') (lesser : e' < E + n) :
      value m' e' < value (2 ^ 52) (E + n) ∧ value (2 ^ 52) (E + n) ≤ value M E := by
    have long : M.log2 = 52 + n := kept.resolve_left (by have least' := regular'.least; omega)
    refine ⟨value_lt_of_exponent_lt regular'.below (Nat.le_refl _) lesser, ?_⟩
    rw [← value_mul_pow, value_le_value_iff, ← Nat.pow_add, ← long]
    exact Nat.log2_self_le nonzero
  refine ⟨regular, ?_, ?_⟩
  · intro m' e' regular' below
    by_cases lesser : e' < E + n
    next =>
      obtain ⟨less, leading⟩ := apart regular' lesser
      exact less.le.trans (lower leading)
    next =>
      obtain ⟨k, rfl⟩ : ∃ k : Nat, e' = E + n + k := ⟨(e' - (E + n)).toNat, by omega⟩
      rw [← value_mul_pow] at below ⊢
      exact lower below
  · intro m' e' regular' above
    by_cases lesser : e' < E + n
    next =>
      obtain ⟨less, leading⟩ := apart regular' lesser
      exact absurd (leading.trans above) (not_le.mpr less)
    next =>
      obtain ⟨k, rfl⟩ : ∃ k : Nat, e' = E + n + k := ⟨(e' - (E + n)).toNat, by omega⟩
      rw [← value_mul_pow m' k] at above ⊢
      exact upper above

theorem roundWithAccuracy_shortened (sign : Sign) (positive : 0 < M)
    (room : E ≤ Format.binary64.targetExponent (totalExponent M E)) :
    ∃ (n m : Nat) (e : Int), roundWithAccuracy .binary64 sign M E .exact = finiteOrZero sign m e ∧
      -1074 ≤ E + n ∧ (E + n = -1074 ∨ M.log2 = 52 + n) ∧ Regular m e ∧
      value m e = value (shortened M n).roundedMantissa (E + n) := by
  have nonzero : M ≠ 0 := Nat.pos_iff_ne_zero.mp positive
  unfold roundWithAccuracy
  rw [shiftToTargetExponent_eq room]
  rw [targetExponent_eq] at room ⊢
  obtain ⟨n, target⟩ : ∃ n : Nat, max ((M.log2 : Int) + E - 52) (-1074) = E + n :=
    ⟨(max ((M.log2 : Int) + E - 52) (-1074) - E).toNat, by omega⟩
  have shift : (E + n - E).toNat = n := by omega
  have least : -1074 ≤ E + n := by omega
  have kept : E + n = -1074 ∨ M.log2 = 52 + n := by omega
  simp only [target, shift]
  have bound : (shortened M n).roundedMantissa ≤ 2 ^ 53 := by
    refine rounded_le ?_
    rw [← Nat.pow_add]
    exact Nat.le_of_lt ((Nat.log2_lt nonzero).mp (by omega))
  have leading : E + n = -1074 ∨ 2 ^ 52 ≤ (shortened M n).roundedMantissa := by
    refine kept.imp_right fun long => le_rounded ?_
    rw [← Nat.pow_add, ← long]
    exact Nat.log2_self_le nonzero
  obtain ⟨m, e, rfl, rfl, regular, same⟩ := renormalized least bound leading
  exact ⟨n, _, _, rfl, least, kept, regular, same⟩

theorem roundWithAccuracy_rounded (sign : Sign) (positive : 0 < M)
    (room : E ≤ Format.binary64.targetExponent (totalExponent M E)) :
    ∃ (m : Nat) (e : Int), roundWithAccuracy .binary64 sign M E .exact = finiteOrZero sign m e ∧
      Rounded (value M E) m e := by
  obtain ⟨n, m, e, result, -, kept, regular, same⟩ := roundWithAccuracy_shortened sign positive room
  exact ⟨m, e, result, rounded_of_renormalized positive kept regular same⟩

theorem round_rounded (sign : Sign) (positive : 0 < M) (E : Int) :
    ∃ (m : Nat) (e : Int), UnpackedFloat.round .binary64 sign M E = finiteOrZero sign m e ∧
      Rounded (value M E) m e := by
  unfold UnpackedFloat.round decreaseExponent
  rw [targetExponent_eq]
  simp only [Nat.shiftLeft_eq]
  -- Zeros are added behind the significand where its last bit would not be kept.
  generalize shift : (E - max ((M.log2 : Int) + E - 52) (-1074)).toNat = n
  have long := log2_mul_two_pow positive n
  obtain ⟨m, e, result, rounded⟩ := roundWithAccuracy_rounded sign (M := M * 2 ^ n) (E := E - n)
    (Nat.mul_pos positive (Nat.two_pow_pos n)) (by rw [targetExponent_eq, long]; omega)
  rw [value_mul_pow, sub_add_cancel] at rounded
  exact ⟨m, e, result, rounded⟩

end Rounding

section Sums

def Ranked : UnpackedFloat → Prop
  | .notANumber => False
  | .finite _ significand exponent _ => Regular significand exponent
  | _ => True

variable {sign : Sign} {m k M : Nat} {e E S : Int}

theorem ranked_finiteOrZero (regular : Regular m e) : Ranked (finiteOrZero sign m e) := by
  unfold finiteOrZero
  split
  next => trivial
  next => exact regular

theorem rank_finiteOrZero (regular : Regular m e) :
    rank (finiteOrZero sign m e) = sign.apply (place m e) := by
  unfold finiteOrZero
  split
  next none =>
    subst none
    obtain rfl : e = -1074 := regular.leading.resolve_right (by norm_num)
    cases sign <;> rfl
  next => rfl

theorem round_ranked (sign : Sign) (positive : 0 < M) (E : Int) :
    ∃ (m : Nat) (e : Int), Ranked (UnpackedFloat.round .binary64 sign M E) ∧
      rank (UnpackedFloat.round .binary64 sign M E) = sign.apply (place m e) ∧
      Rounded (value M E) m e := by
  obtain ⟨m, e, result, rounded⟩ := round_rounded sign positive E
  rw [result]
  exact ⟨m, e, ranked_finiteOrZero rounded.regular, rank_finiteOrZero rounded.regular, rounded⟩

theorem rank_le_normalize {zeroSign : Sign} (regular : Regular m e)
    (same : value m e = value k E) (less : sign.apply k < S) :
    Ranked (UnpackedFloat.normalize .binary64 S E zeroSign) ∧
      sign.apply (place m e) ≤ rank (UnpackedFloat.normalize .binary64 S E zeroSign) := by
  have nonneg := regular.place_nonneg
  unfold UnpackedFloat.normalize
  rcases lt_trichotomy S 0 with negative | rfl | positive
  · obtain ⟨M, rfl⟩ : ∃ M : Nat, S = -M := ⟨(-S).toNat, by omega⟩
    rw [compare_lt_iff_lt.mpr negative]
    simp only [neg_neg, Int.toNat_natCast]
    cases sign with
    | positive => exact absurd (less.trans negative) (by simp [Sign.apply])
    | negative =>
      obtain ⟨m', e', ranked, located, rounded⟩ :=
        round_ranked .negative (M := M) (by omega) E
      have fewer : M ≤ k := by
        simp only [Sign.apply] at less
        omega
      have above := rounded.above m e regular (by rwa [same, value_le_value_iff])
      rw [located]
      exact ⟨ranked, Int.neg_le_neg (rounded.regular.place_le_of_value_le regular above)⟩
  · rw [compare_eq_iff_eq.mpr rfl]
    cases sign with
    | positive => exact absurd less (by simp [Sign.apply])
    | negative => exact ⟨trivial, neg_nonpos.mpr nonneg⟩
  · obtain ⟨M, rfl⟩ : ∃ M : Nat, S = M := ⟨S.toNat, by omega⟩
    rw [compare_gt_iff_gt.mpr positive]
    simp only [Int.toNat_natCast]
    obtain ⟨m', e', ranked, located, rounded⟩ := round_ranked .positive (M := M) (by omega) E
    rw [located]
    refine ⟨ranked, ?_⟩
    cases sign with
    | positive =>
      have more : k ≤ M := Int.ofNat_le.mp less.le
      have below := rounded.below m e regular (by rwa [same, value_le_value_iff])
      exact regular.place_le_of_value_le rounded.regular below
    | negative => exact (neg_nonpos.mpr nonneg).trans rounded.regular.place_nonneg

theorem rank_le_add {u : UnpackedFloat} (stored : Stored u) (finite : u.isFinite = true)
    (positive : 0 < m) (regular : Regular m e) :
    Ranked (u.add .binary64 (.finite .positive m e positive)) ∧
      rank u ≤ rank (u.add .binary64 (.finite .positive m e positive)) := by
  cases u with
  | notANumber => cases finite
  | infinity sign => cases finite
  | zero sign => exact ⟨regular, regular.place_nonneg⟩
  | finite sign m' e' positive' =>
    unfold UnpackedFloat.add decreaseExponent
    simp only [Nat.shiftLeft_eq]
    have same : value m' e' = value (m' * 2 ^ (e' - min e' e).toNat) (min e' e) := by
      rw [value_mul_pow]
      congr 1
      omega
    have more : 0 < m * 2 ^ (e - min e' e).toNat := Nat.mul_pos positive (Nat.two_pow_pos _)
    exact rank_le_normalize stored.1 same (Int.lt_add_of_pos_right _ (Int.natCast_pos.mpr more))

end Sums

section Packing

def clamp (place : Int) : Int :=
  max (-infinitePlace) (min place infinitePlace)

theorem binaryRank_packComponents {u : UnpackedFloat} (sign : Sign) (biased m : Nat)
    {position : Int} (exponent : biased < 2 ^ 11)
    (packed : u.pack .binary64 =
      packComponents .binary64 sign (BitVec.ofNat _ biased) (BitVec.ofNat _ m))
    (same : (biased : Int) * 2 ^ 52 + (m % 2 ^ 52 : Nat) = position) :
    (binaryRank (Float.ofModel (Float.Model.pack u)) : Int) = 2 ^ 63 + sign.apply position := by
  have bits : (Float.ofModel (Float.Model.pack u)).toBits.toBitVec = u.pack .binary64 := rfl
  rw [binaryRank_eq, bits, packed, unpackSign_packComponents, unpackExponent_packComponents,
    unpackMantissa_packComponents, Sign.ofBitVec_toBitVec, BitVec.toNat_ofNat, BitVec.toNat_ofNat,
    Nat.mod_eq_of_lt exponent, same]

variable {sign : Sign} {m : Nat} {e : Int} (positive : 0 < m)

theorem pack_overflow (large : 972 ≤ e) :
    UnpackedFloat.pack .binary64 (.finite sign m e positive) =
      packComponents .binary64 sign (BitVec.ofNat _ 2047) (BitVec.ofNat _ 0) := by
  have bias : ((Format.binary64.exponentBias : Nat) : Int) = 1023 := rfl
  unfold UnpackedFloat.pack
  rw [bias, if_pos (by simp only; omega)]
  rfl

theorem pack_normal (small : e ≤ 971) (full : 2 ^ 52 ≤ m) (below : m < 2 ^ 53) :
    UnpackedFloat.pack .binary64 (.finite sign m e positive) =
      packComponents .binary64 sign (BitVec.ofNat _ (e + 1075).toNat) (BitVec.ofNat _ m) := by
  have bias : ((Format.binary64.exponentBias : Nat) : Int) = 1023 := rfl
  have length : Format.binary64.mantissaBits = 53 := rfl
  have long : m.log2 = 52 := (Nat.log2_eq_iff (by omega)).mpr ⟨full, below⟩
  have biased : e + 1023 + ((52 : Nat) : Int) = e + 1075 := by omega
  unfold UnpackedFloat.pack
  rw [bias, length, long, biased, if_neg (by simp only; omega), if_pos (by rfl)]

theorem pack_subnormal (short : m < 2 ^ 52) :
    UnpackedFloat.pack .binary64 (.finite sign m (-1074) positive) =
      packComponents .binary64 sign (BitVec.ofNat _ 0) (BitVec.ofNat _ m) := by
  have length : Format.binary64.mantissaBits = 53 := rfl
  have few : m.log2 < 52 := (Nat.log2_lt (by omega)).mpr short
  unfold UnpackedFloat.pack
  rw [if_neg (by decide), length, if_neg (by omega)]

theorem binaryRank_pack_finite (regular : Regular m e) :
    (binaryRank (Float.ofModel (Float.Model.pack (.finite sign m e positive))) : Int) =
      2 ^ 63 + sign.apply (min (place m e) infinitePlace) := by
  obtain ⟨below, least, leading⟩ := regular
  -- The first bit of a full significand is not stored; the exponent makes up for it.
  by_cases large : 972 ≤ e
  · refine binaryRank_packComponents sign 2047 0 (by norm_num) (pack_overflow positive large) ?_
    unfold place infinitePlace
    omega
  · by_cases full : 2 ^ 52 ≤ m
    · refine binaryRank_packComponents sign _ m (by omega)
        (pack_normal positive (by omega) full below) ?_
      unfold place infinitePlace
      omega
    · obtain rfl : e = -1074 := by omega
      refine binaryRank_packComponents sign _ m (by norm_num)
        (pack_subnormal positive (by omega)) ?_
      unfold place infinitePlace
      omega

theorem binaryRank_pack {u : UnpackedFloat} (ranked : Ranked u) :
    (binaryRank (Float.ofModel (Float.Model.pack u)) : Int) = 2 ^ 63 + clamp (rank u) := by
  cases u with
  | notANumber => cases ranked
  | infinity sign =>
    rw [binaryRank_packComponents sign 2047 0 (by norm_num) rfl rfl]
    cases sign <;> rfl
  | zero sign =>
    rw [binaryRank_packComponents sign 0 0 (by norm_num) rfl rfl]
    cases sign <;> rfl
  | finite sign m e positive =>
    rw [binaryRank_pack_finite positive ranked]
    have apart := ranked.place_pos positive
    have limit : 0 < infinitePlace := by norm_num [infinitePlace]
    unfold clamp rank
    cases sign <;> simp only [Sign.apply] <;> omega

end Packing

theorem eq_finite_of_rank_pos {u : UnpackedFloat} (stored : Stored u) (finite : u.isFinite = true)
    (above : 0 < rank u) : ∃ (m : Nat) (e : Int) (positive : 0 < m),
      u = .finite .positive m e positive ∧ Regular m e := by
  cases u with
  | notANumber => cases finite
  | infinity sign => cases finite
  | zero sign => cases above
  | finite sign m e positive =>
    cases sign with
    | positive => exact ⟨m, e, positive, rfl, stored.1⟩
    | negative => exact absurd above (not_lt.mpr (neg_nonpos.mpr stored.1.place_nonneg))

end Unpacked

open Unpacked

theorem exists_unpack_eq_finite {y : Float} (finite : y.isFinite = true)
    (positive : 2 ^ 63 < binaryRank y) : ∃ (m : Nat) (e : Int) (some : 0 < m),
      y.toModel.unpack = .finite .positive m e some ∧ Regular m e := by
  have ranked := binaryRank_eq_rank (isNaN_eq_false_of_isFinite finite)
  exact eq_finite_of_rank_pos (stored_toModel y) finite (by omega)

theorem binaryRank_le_add {x y : Float} (xFinite : x.isFinite = true) (yFinite : y.isFinite = true)
    (positive : 2 ^ 63 < binaryRank y) :
    (x + y).isNaN = false ∧ binaryRank x ≤ binaryRank (x + y) := by
  have xRank := binaryRank_eq_rank (isNaN_eq_false_of_isFinite xFinite)
  obtain ⟨m, e, some, same, regular⟩ := exists_unpack_eq_finite yFinite positive
  have sum : x + y = Float.ofModel (Float.Model.pack
      (x.toModel.unpack.add .binary64 (.finite .positive m e some))) := by
    rw [← same]
    rfl
  obtain ⟨ranked, further⟩ := rank_le_add (stored_toModel x) xFinite some regular
  obtain ⟨above, below⟩ := rank_between (stored_toModel x) xFinite
  have packed := binaryRank_pack ranked
  rw [← sum] at packed
  unfold clamp infinitePlace at packed
  unfold infinitePlace at above below
  exact ⟨isNaN_eq_false_of_binaryRank_le (by omega), by omega⟩

end FormulaNumerics
