set_option autoImplicit false

namespace FormulaNumerics

class Scalar (α : Type) extends Add α, Sub α, Mul α, Div α, Neg α, BEq α where
  lt : α → α → Bool
  le : α → α → Bool
  isFinite : α → Bool
  ofCount : UInt64 → α
  -- The nearest count where the whole part is not one.
  toCount : α → UInt64
  -- Bounds the positions below `stop` of a walk from `start` that gets further with each step.
  positions : (step start stop : α) → Nat

namespace Scalar

variable {α : Type} [Scalar α]

def zero : α := ofCount 0
def two : α := ofCount 2
def half : α := (ofCount 1 : α) / two

end Scalar

-- The place of a number among all binary numbers in their order; the two zeros share one.
def binaryRank (x : Float) : Nat :=
  let bits := x.toBits.toNat
  if bits < Nat.pow 2 63 then Nat.pow 2 63 + bits else Nat.pow 2 64 - bits

instance : Scalar Float where
  lt x y := x < y
  le x y := x ≤ y
  isFinite := Float.isFinite
  ofCount := UInt64.toFloat
  toCount := Float.toUInt64
  positions _ start stop := binaryRank stop - binaryRank start

def maxCount : Nat := Nat.pow 2 64 - 1

-- The step fits into the way this often, the last time perhaps only in part.
instance : Scalar Rat where
  add := Rat.add
  sub := Rat.sub
  mul := Rat.mul
  div := Rat.div
  neg := Rat.neg
  beq x y := decide (x = y)
  lt x y := Rat.blt x y
  le x y := !Rat.blt y x
  isFinite _ := true
  ofCount count := Rat.ofInt count.toNat
  toCount q := UInt64.ofNat (min q.floor.toNat maxCount)
  positions step start stop := (Rat.div (Rat.sub stop start) step).ceil.toNat

end FormulaNumerics
