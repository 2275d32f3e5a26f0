import FormulaNumerics.Fault
import FormulaNumerics.Numeric.Scalar
import FormulaNumerics.Text.Blank

set_option autoImplicit false

namespace FormulaNumerics

inductive QuadratureRule where
  | midpoint
  | trapezoidal
  | simpson
  deriving DecidableEq

namespace QuadratureRule

def all : List QuadratureRule :=
  [.midpoint, .trapezoidal, .simpson]

def label : QuadratureRule → String
  | .midpoint => "Midpoint Rule"
  | .trapezoidal => "Trapezoidal Rule"
  | .simpson => "Simpson's Rule"

def keys : QuadratureRule → List String
  | .midpoint => ["midpoint"]
  | .trapezoidal => ["trapezoidal", "trapezoid"]
  | .simpson => ["simpson", "simpson's"]

def withoutRule (key : List Char) : List Char :=
  let ending := [' ', 'r', 'u', 'l', 'e']
  if ending.isSuffixOf key then key.take (key.length - ending.length) else key

def ofText? (text : String) : Except Unreadable QuadratureRule :=
  let key := String.ofList (withoutRule ((Text.trim text.toList).map Char.toLower))
  match all.find? fun rule => rule.keys.contains key with
  | some rule => .ok rule
  | none => .error ⟨"integration method", text⟩

section

variable {α : Type} [Scalar α]

open Scalar

variable (step start stop : α)

def validRange : Bool :=
  lt zero step && isFinite step && isFinite start && isFinite stop && le start stop

def checkRange : Except (Fault α) Unit :=
  if validRange step start stop then .ok () else .error (.invalidRange step start stop)

def wholeSteps : UInt64 :=
  toCount ((stop - start) / step)

variable (sample : α → Except (Fault α) α)

-- A step that vanishes beside `left` is refused. The budget bounds the positions.
@[specialize]
def walk : (budget : Nat) → (left sum : α) → Except (Fault α) α
  | 0, left, sum =>
    if lt left stop then .error (.invalidRange step start stop) else .ok sum
  | budget + 1, left, sum =>
    if lt left stop then
      match sample (left + step / two) with
      | .ok value =>
        let next := left + step
        if next == left then .error (.invalidRange step start stop)
        else walk budget next (sum + value)
      | .error fault => .error fault
    else .ok sum

@[specialize]
def midpointSum : Except (Fault α) α := do
  let sum ← walk step start stop sample (positions step start stop) start zero
  return step * sum

@[specialize]
def addNodes (weight : UInt64 → α → α) : (count : Nat) → (index : UInt64) → (sum : α) →
    Except (Fault α) α
  | 0, _, sum => .ok sum
  | count + 1, index, sum =>
    match sample (start + ofCount index * step) with
    | .ok value => addNodes weight count (index + 1) (sum + weight index value)
    | .error fault => .error fault

@[specialize]
def trapezoidalSum : Except (Fault α) α := do
  let first ← sample start
  let last ← sample stop
  let inner := (wholeSteps step start stop).toNat - 1
  let sum ← addNodes step start sample (fun _ value => value) inner 1 (half * (first + last))
  return step * sum

-- Panels come in pairs. Their count is a 64-bit word, so the last addition can overflow.
def panels : UInt64 :=
  let count := max (wholeSteps step start stop) 2
  if count % 2 = 0 then count else count + 1

def panelStep : α :=
  (stop - start) / ofCount (panels step start stop)

def simpsonWeight (index : UInt64) (value : α) : α :=
  ofCount (if index % 2 = 0 then 2 else 4) * value

@[specialize]
def simpsonSum : Except (Fault α) α :=
  if start == stop then .ok zero
  else do
    let width := panelStep step start stop
    let first ← sample start
    let last ← sample stop
    let inner := (panels step start stop).toNat - 1
    let sum ← addNodes width start sample simpsonWeight inner 1 (first + last)
    return sum * width / ofCount 3

@[specialize]
def apply (rule : QuadratureRule) : Except (Fault α) α := do
  checkRange step start stop
  match rule with
  | .midpoint => midpointSum step start stop sample
  | .trapezoidal => trapezoidalSum step start stop sample
  | .simpson => simpsonSum step start stop sample

variable {step start stop} (rule : QuadratureRule)

theorem apply_of_refused {fault : Fault α} (refused : checkRange step start stop = .error fault) :
    apply step start stop sample rule = .error fault := by
  unfold apply
  rw [refused]
  rfl

theorem apply_of_valid (valid : checkRange step start stop = .ok ()) :
    apply step start stop sample rule = match rule with
      | .midpoint => midpointSum step start stop sample
      | .trapezoidal => trapezoidalSum step start stop sample
      | .simpson => simpsonSum step start stop sample := by
  unfold apply
  rw [valid]
  rfl

end

theorem ofText?_label (rule : QuadratureRule) :
    (ofText? rule.label).toOption = some rule := by
  cases rule <;> decide +kernel

end QuadratureRule

end FormulaNumerics
