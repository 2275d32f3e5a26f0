import FormulaNumerics.Decimal.Shortest

set_option autoImplicit false

namespace FormulaNumerics.Decimal

def isNegative (x : Float) : Bool :=
  Nat.pow 2 63 ≤ x.toBits.toNat

def digitsText (n : Nat) : List Char :=
  Nat.toDigits 10 n

def Shortest.positional (d : Shortest) : List Char :=
  let digits := digitsText d.digits
  if 0 ≤ d.exponent then digits ++ List.replicate d.exponent.toNat '0'
  else
    let places := (-d.exponent).toNat
    if places < digits.length then
      digits.take (digits.length - places) ++ '.' :: digits.drop (digits.length - places)
    else '0' :: '.' :: List.replicate (places - digits.length) '0' ++ digits

def Shortest.scientific (d : Shortest) : List Char :=
  let digits := digitsText d.digits
  let power := d.exponent + digits.length - 1
  let mantissa := match digits with
    | first :: second :: rest => first :: '.' :: second :: rest
    | short => short
  mantissa ++ 'e' :: (toString power).toList

-- A finite number has its layout behind its sign; the others are words.
def written (layout : Float → List Char) (x : Float) : String :=
  if x.isNaN then "NaN"
  else
    let text := if x.isInf then ['i', 'n', 'f'] else layout x
    String.ofList (if isNegative x then '-' :: text else text)

def plain : Float → String :=
  written fun x => (Shortest.ofFloat x).positional

-- In the full form numbers from `10 ^ 16` on and those below `10 ^ -4` have an exponent.
def needsExponent (x : Float) : Bool :=
  let size := if isNegative x then -x else x
  x != 0.0 && (1e16 ≤ size || size < 1e-4)

def full : Float → String :=
  written fun x =>
    let d := Shortest.ofFloat x
    if needsExponent x then d.scientific
    else if 0 ≤ d.exponent then d.positional ++ ['.', '0']
    else d.positional

end FormulaNumerics.Decimal
