set_option autoImplicit false

namespace FormulaNumerics.Decimal

structure Binary where
  significand : Nat
  exponent : Int

structure Shortest where
  digits : Nat
  exponent : Int

def hiddenBit : Nat := Nat.pow 2 52

def Binary.ofFloat (x : Float) : Binary :=
  let bits := x.toBits.toNat % Nat.pow 2 63
  let fraction := bits % hiddenBit
  let biased := bits / hiddenBit
  if biased = 0 then ⟨fraction, -1074⟩ else ⟨hiddenBit + fraction, Int.ofNat biased - 1075⟩

-- The reals that round to a number, in quarters of its last place. If `closed`, its ends do too.
structure Interval where
  lower : Nat
  centre : Nat
  upper : Nat
  closed : Bool

def Binary.interval (b : Binary) : Interval :=
  let m := b.significand
  -- Below a power of two the numbers lie twice as dense.
  { lower := if m = hiddenBit ∧ b.exponent > -1074 then 4 * m - 1 else 4 * m - 2
    centre := 4 * m
    upper := 4 * m + 2
    closed := m % 2 = 0 }

-- `2 ^ two * 10 ^ ten` is `numerator two ten / denominator two ten`.
def numerator (two ten : Int) : Nat :=
  Nat.pow 2 two.toNat * Nat.pow 10 ten.toNat

def denominator (two ten : Int) : Nat :=
  Nat.pow 2 (-two).toNat * Nat.pow 10 (-ten).toNat

def Binary.reaches (b : Binary) (k : Int) : Bool :=
  denominator b.exponent (-k) ≤ b.significand * numerator b.exponent (-k)

def Binary.decimalOrder (b : Binary) : Int :=
  let estimate := ((b.significand.log2 : Int) + b.exponent) * 30103 / 100000
  if b.reaches (estimate + 1) then estimate + 1
  else if b.reaches estimate then estimate
  else estimate - 1

-- Of two points at the same distance from the number it is the upper.
def Binary.onGrid? (b : Binary) (grid : Int) : Option Nat :=
  let near := b.interval
  let num := numerator (b.exponent - 2) (-grid)
  let den := denominator (b.exponent - 2) (-grid)
  let below := near.centre * num / den
  let inside (point : Nat) : Bool :=
    if near.closed then near.lower * num ≤ point * den && point * den ≤ near.upper * num
    else near.lower * num < point * den && point * den < near.upper * num
  match inside below, inside (below + 1) with
  | true, true =>
    some (if (2 * below + 1) * den ≤ 2 * near.centre * num then below + 1 else below)
  | true, false => some below
  | false, true => some (below + 1)
  | false, false => none

-- Only one digit can be rounded up to ten: a rounder point on a finer grid was found before.
def Binary.search (b : Binary) (order : Int) : (digits tries : Nat) → Shortest
  | _, 0 => ⟨0, 0⟩
  | digits, tries + 1 =>
    let grid := order + 1 - digits
    match b.onGrid? grid with
    | some point => if point = 10 then ⟨1, grid + 1⟩ else ⟨point, grid⟩
    | none => b.search order (digits + 1) tries

def Shortest.ofBinary (b : Binary) : Shortest :=
  if b.significand = 0 then ⟨0, 0⟩ else b.search b.decimalOrder 1 17

def Shortest.ofFloat (x : Float) : Shortest :=
  .ofBinary (.ofFloat x)

end FormulaNumerics.Decimal
