set_option autoImplicit false

namespace FormulaNumerics.Decimal

def digitValue (c : Char) : Nat :=
  c.toNat - '0'.toNat

def natOfDigits (digits : List Char) : Nat :=
  digits.foldl (fun total c => 10 * total + digitValue c) 0

def infinity : Float :=
  1.0 / 0.0

def notANumber : Float :=
  0.0 / 0.0

-- Beyond `10 ^ 310` all is infinite and below `10 ^ -330` all is zero, whatever the digits are.
def magnitude (digits : List Char) (scale : Int) : Float :=
  let significant := digits.dropWhile (· == '0')
  let order := significant.length + scale
  if significant.isEmpty then 0.0
  else if order > 310 then infinity
  else if order < -330 then 0.0
  else if scale < 0 then Float.ofScientific (natOfDigits significant) true (-scale).toNat
  else Float.ofScientific (natOfDigits significant) false scale.toNat

def splitSign : List Char → Bool × List Char
  | '-' :: rest => (true, rest)
  | '+' :: rest => (false, rest)
  | text => (false, text)

def splitFraction : List Char → List Char × List Char
  | '.' :: rest => (rest.takeWhile Char.isDigit, rest.dropWhile Char.isDigit)
  | text => ([], text)

def exponent? : List Char → Option Int
  | [] => some 0
  | c :: rest =>
    let (negative, digits) := splitSign rest
    if c.toLower == 'e' && !digits.isEmpty && digits.all Char.isDigit then
      some (if negative then -(natOfDigits digits : Int) else natOfDigits digits)
    else none

def unsigned? (text : List Char) : Option Float :=
  let whole := text.takeWhile Char.isDigit
  let (fraction, tail) := splitFraction (text.dropWhile Char.isDigit)
  if whole.isEmpty && fraction.isEmpty then none
  else (exponent? tail).map fun e => magnitude (whole ++ fraction) (e - fraction.length)

def special? (text : List Char) : Option Float :=
  let word := text.map Char.toLower
  if word = ['i', 'n', 'f'] ∨ word = ['i', 'n', 'f', 'i', 'n', 'i', 't', 'y'] then some infinity
  else if word = ['n', 'a', 'n'] then some notANumber
  else none

def read? (text : List Char) : Option Float :=
  let (negative, rest) := splitSign text
  let value := (special? rest).or (unsigned? rest)
  if negative then value.map (-·) else value

@[simp] theorem exponent?_nil : exponent? [] = some 0 := rfl

end FormulaNumerics.Decimal
