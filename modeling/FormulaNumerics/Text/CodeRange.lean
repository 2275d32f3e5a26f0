set_option autoImplicit false

namespace FormulaNumerics.Text

-- Both ends belong to the range.
structure CodeRange where
  first : Nat
  last : Nat

namespace CodeRange

def has (range : CodeRange) (c : Char) : Bool :=
  range.first ≤ c.toNat && c.toNat ≤ range.last

def covers (ranges : List CodeRange) (c : Char) : Bool :=
  ranges.any (·.has c)

end CodeRange

end FormulaNumerics.Text
