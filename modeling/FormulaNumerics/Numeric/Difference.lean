import FormulaNumerics.Fault
import FormulaNumerics.Numeric.Scalar
import FormulaNumerics.Text.Blank

set_option autoImplicit false

namespace FormulaNumerics

inductive DifferenceFormula where
  | threePoint
  | fivePoint
  | second
  deriving DecidableEq

namespace DifferenceFormula

def all : List DifferenceFormula :=
  [.threePoint, .fivePoint, .second]

def label : DifferenceFormula → String
  | .threePoint => "3-point central difference"
  | .fivePoint => "5-point central difference"
  | .second => "second derivative"

def shortNames : DifferenceFormula → List String
  | .threePoint => ["first3", "3-point", "3"]
  | .fivePoint => ["first5", "5-point", "5"]
  | .second => ["second"]

def ofText? (text : String) : Except Unreadable DifferenceFormula :=
  let key := String.ofList ((Text.trim text.toList).map Char.toLower)
  match all.find? fun formula => (formula.label :: formula.shortNames).contains key with
  | some formula => .ok formula
  | none => .error ⟨"differentiation method", text⟩

section

variable {α : Type} [Scalar α]

open Scalar

def checkStep (step point : α) : Except (Fault α) Unit :=
  if step == zero then .error .divisionByZero
  else if !isFinite step || !isFinite point then .error (.invalidStep step point)
  else .ok ()

def divisor (step : α) : DifferenceFormula → α
  | .threePoint => two * step
  | .fivePoint => ofCount 12 * step
  | .second => step * step

-- The samples are taken from the right to the left.
@[specialize]
def weighted (step point : α) (sample : α → Except (Fault α) α) :
    DifferenceFormula → Except (Fault α) α
  | .threePoint => do
    let right ← sample (point + step)
    let left ← sample (point - step)
    return right - left
  | .fivePoint => do
    let farRight ← sample (point + two * step)
    let right ← sample (point + step)
    let left ← sample (point - step)
    let farLeft ← sample (point - two * step)
    return -farRight + ofCount 8 * right - ofCount 8 * left + farLeft
  | .second => do
    let right ← sample (point + step)
    let centre ← sample point
    let left ← sample (point - step)
    return right - two * centre + left

@[specialize]
def apply (formula : DifferenceFormula) (step point : α) (sample : α → Except (Fault α) α) :
    Except (Fault α) α := do
  checkStep step point
  let sum ← weighted step point sample formula
  return sum / divisor step formula

variable {step point : α} (formula : DifferenceFormula)

theorem apply_of_refused {fault : Fault α} (refused : checkStep step point = .error fault)
    (sample : α → Except (Fault α) α) : formula.apply step point sample = .error fault := by
  unfold apply
  rw [refused]
  rfl

theorem apply_of_usable (usable : checkStep step point = .ok ())
    (sample : α → Except (Fault α) α) : formula.apply step point sample = (do
      let sum ← formula.weighted step point sample
      return sum / formula.divisor step) := by
  unfold apply
  rw [usable]
  rfl

end

theorem ofText?_label (formula : DifferenceFormula) :
    (ofText? formula.label).toOption = some formula := by
  cases formula <;> decide +kernel

end DifferenceFormula

end FormulaNumerics
