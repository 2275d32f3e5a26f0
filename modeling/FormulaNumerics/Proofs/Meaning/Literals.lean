import FormulaNumerics.Proofs.Syntax.Tokens

set_option autoImplicit false

namespace FormulaNumerics

open Decimal

theorem Decimal.splitSign_cons {c : Char} (tail : List Char) (notMinus : c ≠ '-')
    (notPlus : c ≠ '+') : splitSign (c :: tail) = (false, c :: tail) := by
  unfold splitSign
  split <;> simp_all

theorem Decimal.special?_cons {c : Char} (tail : List Char) (notI : c.toLower ≠ 'i')
    (notN : c.toLower ≠ 'n') : special? (c :: tail) = none := by
  simp [special?, notI, notN]

theorem Decimal.splitFraction_digits {fraction : List Char}
    (isDigit : ∀ c ∈ fraction, c.isDigit = true) :
    splitFraction ('.' :: fraction) = (fraction, []) := by
  have taken : fraction.takeWhile Char.isDigit = fraction := by
    rw [List.takeWhile_eq_self_iff]
    exact isDigit
  have dropped : fraction.dropWhile Char.isDigit = [] := by
    rw [List.dropWhile_eq_nil_iff]
    exact isDigit
  simp only [splitFraction, taken, dropped]

theorem toLower_of_isDigit {c : Char} (digit : c.isDigit = true) : c.toLower = c := by
  have bounds : 48 ≤ c.toNat ∧ c.toNat ≤ 57 := by
    simpa [Char.isDigit, UInt32.le_iff_toNat_le] using digit
  unfold Char.toLower
  split
  next upper =>
    have lower : 65 ≤ c.toNat := UInt32.le_iff_toNat_le.mp upper.1
    omega
  next => rfl

namespace Syntax.Literal

theorem WellFormed.unsigned?_text {l : Literal} (wf : l.WellFormed) :
    unsigned? l.text = some l.value := by
  obtain ⟨whole, pointed, fraction⟩ := l
  obtain ⟨wholeDigits, fractionDigits, unpointed, someDigit⟩ := wf
  simp only at wholeDigits fractionDigits unpointed someDigit
  have taken (rest : List Char) :
      (whole ++ rest).takeWhile Char.isDigit = whole ++ rest.takeWhile Char.isDigit :=
    List.takeWhile_append_of_pos wholeDigits
  have dropped (rest : List Char) :
      (whole ++ rest).dropWhile Char.isDigit = rest.dropWhile Char.isDigit :=
    List.dropWhile_append_of_pos wholeDigits
  have point : Char.isDigit '.' = false := by decide
  have digits : (whole.isEmpty && fraction.isEmpty) = false := by
    cases whole <;> cases fraction <;> simp_all
  cases pointed with
  | true =>
    simp [unsigned?, Literal.text, Literal.value, taken, dropped, point,
      splitFraction_digits fractionDigits, digits]
  | false =>
    obtain rfl := unpointed rfl
    have nonempty : whole ≠ [] := by simpa using someDigit
    have wholeTaken := taken []
    have wholeDropped := dropped []
    rw [List.append_nil] at wholeTaken wholeDropped
    simp [unsigned?, Literal.text, Literal.value, wholeTaken, wholeDropped, splitFraction, nonempty]

theorem WellFormed.read?_text {l : Literal} (wf : l.WellFormed) : read? l.text = some l.value := by
  obtain ⟨c, tail, spelled, first⟩ := wf.head
  have unsigned := wf.unsigned?_text
  have isUnsigned : c ≠ '-' ∧ c ≠ '+' := by
    constructor
    · rintro rfl
      exact absurd first (by decide)
    · rintro rfl
      exact absurd first (by decide)
  have isNumeric : c.toLower ≠ 'i' ∧ c.toLower ≠ 'n' := by
    obtain digit | rfl := first
    · rw [toLower_of_isDigit digit]
      constructor
      · rintro rfl
        exact absurd digit (by decide)
      · rintro rfl
        exact absurd digit (by decide)
    · decide
  rw [spelled] at unsigned ⊢
  simp [read?, splitSign_cons tail isUnsigned.1 isUnsigned.2,
    special?_cons tail isNumeric.1 isNumeric.2, unsigned]

end Syntax.Literal

end FormulaNumerics
