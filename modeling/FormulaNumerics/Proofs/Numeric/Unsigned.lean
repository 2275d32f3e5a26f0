import FormulaNumerics.Proofs.Numeric.Rounding
import FormulaNumerics.Decimal.Reader

set_option autoImplicit false

namespace FormulaNumerics

open Float.Model Float.Model.UnpackedFloat

namespace Unpacked

section Signs

inductive Unsigned : UnpackedFloat → Prop where
  | infinity : Unsigned (.infinity .positive)
  | zero : Unsigned (.zero .positive)
  | finite (significand : Nat) (exponent : Int) (positive : 0 < significand) :
      Unsigned (.finite .positive significand exponent positive)

theorem unsigned_roundWithAccuracy (format : Format) (m : Nat) (e : Int) (accuracy : Accuracy) :
    Unsigned (roundWithAccuracy format .positive m e accuracy) := by
  unfold roundWithAccuracy
  simp only
  split
  next => exact .zero
  next some => exact .finite _ _ (Nat.pos_of_ne_zero some)

theorem unsigned_ofNat (format : Format) (n : Nat) : Unsigned (UnpackedFloat.ofNat format n) := by
  unfold UnpackedFloat.ofNat UnpackedFloat.ofInt UnpackedFloat.normalize
  cases order : compare (n : Int) 0 with
  | lt =>
    have negative := compare_lt_iff_lt.mp order
    omega
  | eq => exact .zero
  | gt => exact unsigned_roundWithAccuracy _ _ _ _

variable {u : UnpackedFloat} {m : Nat} {e : Int} (positive : 0 < m)

theorem Unsigned.mul (unsigned : Unsigned u) (format : Format) :
    Unsigned (u.mul format (.finite .positive m e positive)) := by
  cases unsigned with
  | infinity => exact .infinity
  | zero => exact .zero
  | finite m' e' positive' => exact unsigned_roundWithAccuracy _ _ _ _

theorem Unsigned.div (unsigned : Unsigned u) (format : Format) :
    Unsigned (u.div format (.finite .positive m e positive)) := by
  cases unsigned with
  | infinity => exact .infinity
  | zero => exact .zero
  | finite m' e' positive' => exact unsigned_roundWithAccuracy _ _ _ _

theorem unsigned_ofScientific (format : Format) (m : Nat) (e : Int) :
    Unsigned (UnpackedFloat.ofScientific format m e) := by
  unfold UnpackedFloat.ofScientific
  split
  next => exact .zero
  next some =>
    split
    next => exact .infinity
    next =>
      split
      next => exact .zero
      next =>
        split
        next => exact (Unsigned.finite _ _ _).mul _ _
        next => exact (Unsigned.finite _ _ _).div _ _

end Signs

section Bits

theorem toNat_packComponents (biased : BitVec 11) (fraction : BitVec 52) :
    (packComponents .binary64 .positive biased fraction).toNat =
      biased.toNat * 2 ^ 52 + fraction.toNat := by
  rw [toNat_eq, unpackSign_packComponents, unpackExponent_packComponents,
    unpackMantissa_packComponents]
  simp [Sign.toBitVec]

-- Only behind the bits of infinity there is what is not a number.
theorem Unsigned.toNat_pack_le {u : UnpackedFloat} (unsigned : Unsigned u) :
    (u.pack .binary64).toNat ≤ 2047 * 2 ^ 52 := by
  have infinite : (packedInfinity .binary64 .positive).toNat ≤ 2047 * 2 ^ 52 := by decide
  cases unsigned with
  | infinity => exact infinite
  | zero => decide
  | finite m e positive =>
    have fraction := (BitVec.ofNat 52 m).isLt
    unfold UnpackedFloat.pack
    simp only
    split
    next => exact infinite
    next few =>
      split
      next =>
        rw [toNat_packComponents, BitVec.toNat_ofNat]
        have biased := Nat.mod_le
          (e + Format.binary64.exponentBias + Format.binary64.mantissaBitsWithoutImplicit).toNat
          (2 ^ 11)
        omega
      next =>
        rw [toNat_packComponents, BitVec.toNat_ofNat]
        omega

end Bits

end Unpacked

structure Unsigned (x : Float) : Prop where
  number : x.isNaN = false
  clear : x.toBits.toNat < 2 ^ 63

theorem binaryRank_of_clear {x : Float} (clear : x.toBits.toNat < 2 ^ 63) :
    binaryRank x = 2 ^ 63 + x.toBits.toNat :=
  if_pos clear

theorem unsigned_of_toBits_le {x : Float} (bound : x.toBits.toNat ≤ 2047 * 2 ^ 52) :
    Unsigned x := by
  have clear : x.toBits.toNat < 2 ^ 63 := by omega
  have rank := binaryRank_of_clear clear
  exact ⟨isNaN_eq_false_of_binaryRank_le (by omega), clear⟩

theorem unsigned_pack {u : UnpackedFloat} (unsigned : Unpacked.Unsigned u) :
    Unsigned (Float.ofModel (Float.Model.pack u)) :=
  unsigned_of_toBits_le unsigned.toNat_pack_le

-- There is only one zero among these numbers, and each of them is equal to itself.
theorem Unsigned.beq_iff {x y : Float} (xUnsigned : Unsigned x) (yUnsigned : Unsigned y) :
    (x == y) = true ↔ x.toBits = y.toBits := by
  rw [beq_iff_binaryRank_eq xUnsigned.number yUnsigned.number,
    binaryRank_of_clear xUnsigned.clear, binaryRank_of_clear yUnsigned.clear,
    Nat.add_left_cancel_iff, UInt64.toNat_inj]

theorem Unsigned.unpack {x : Float} (unsigned : Unsigned x) :
    Unpacked.Unsigned x.toModel.unpack := by
  have some := Unpacked.unpack_ne_notANumber unsigned.number
  have bits := Unpacked.toNat_eq x.toModel.toBits.toBitVec
  have shape := Unpacked.shape_unpack x.toModel.toBits.toBitVec
  change x.toBits.toNat = _ at bits
  change Unpacked.Shape _ _ _ x.toModel.unpack at shape
  have clear := unsigned.clear
  have plus : Sign.ofBitVec (@unpackSign .binary64 x.toModel.toBits.toBitVec) = .positive := by
    obtain least | set := (@unpackSign .binary64 x.toModel.toBits.toBitVec).eq_zero_or_eq_one
    · rw [least]
      rfl
    · rw [set] at bits
      simp at bits
      omega
  rw [plus] at shape
  generalize x.toModel.unpack = u at shape some
  cases shape with
  | notANumber => exact absurd rfl some
  | infinity greatest plain => exact .infinity
  | zero least plain => exact .zero
  | finite positive regular small same => exact .finite _ _ positive

section Quotients

variable {x y : Float} (finite : y.isFinite = true) (positive : 2 ^ 63 < binaryRank y)

include finite positive

theorem Unsigned.mul (unsigned : Unsigned x) : Unsigned (x * y) := by
  obtain ⟨m, e, some, same, -⟩ := exists_unpack_eq_finite finite positive
  have product := unsigned_pack (unsigned.unpack.mul (e := e) some .binary64)
  rw [← same] at product
  exact product

theorem Unsigned.div (unsigned : Unsigned x) : Unsigned (x / y) := by
  obtain ⟨m, e, some, same, -⟩ := exists_unpack_eq_finite finite positive
  have quotient := unsigned_pack (unsigned.unpack.div (e := e) some .binary64)
  rw [← same] at quotient
  exact quotient

end Quotients

section Digits

theorem powerOfTen_positive {power : Float}
    (member : power ∈ Float.exactlyRepresentablePowersOfTen) :
    power.isFinite = true ∧ 2 ^ 63 < binaryRank power := by
  have all : Float.exactlyRepresentablePowersOfTen.all
      (fun power => power.isFinite && decide (2 ^ 63 < binaryRank power)) = true := by
    decide +kernel
  rw [Array.all_eq_true'] at all
  have here := all power member
  rwa [Bool.and_eq_true, decide_eq_true_iff] at here

theorem unsigned_ofScientific (m : Nat) (divided : Bool) (e : Nat) :
    Unsigned (Float.ofScientific m divided e) := by
  unfold Float.ofScientific
  split
  next short =>
    have inside : e < Float.exactlyRepresentablePowersOfTen.size := by
      simp [Float.exactlyRepresentablePowersOfTen]
      omega
    obtain ⟨finite, positive⟩ := powerOfTen_positive (Array.getElem_mem inside)
    have whole : Unsigned m.toUInt64.toFloat := unsigned_pack (Unpacked.unsigned_ofNat _ _)
    cases divided with
    | true => exact whole.div finite positive
    | false => exact whole.mul finite positive
  next => exact unsigned_pack (Unpacked.unsigned_ofScientific _ _ _)

theorem unsigned_magnitude (digits : List Char) (scale : Int) :
    Unsigned (Decimal.magnitude digits scale) := by
  have zero : Unsigned 0.0 := unsigned_of_toBits_le (by decide +kernel)
  unfold Decimal.magnitude
  simp only
  split
  next => exact zero
  next =>
    split
    next => exact unsigned_of_toBits_le (by decide +kernel)
    next =>
      split
      next => exact zero
      next =>
        split
        next => exact unsigned_ofScientific _ _ _
        next => exact unsigned_ofScientific _ _ _

end Digits

end FormulaNumerics
