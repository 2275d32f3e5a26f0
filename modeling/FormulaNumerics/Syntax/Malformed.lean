import FormulaNumerics.Syntax.Expectation
import FormulaNumerics.Syntax.Nesting

set_option autoImplicit false

namespace FormulaNumerics.Syntax

inductive Defect where
  | unexpected (expected : List Expectation)
  | nestedTooDeeply
  deriving DecidableEq

def Defect.message : Defect → String
  | .unexpected expected => Expectation.sentence expected
  | .nestedTooDeeply => "parentheses nested deeper than " ++ toString maxNesting ++ " levels"

-- The first character of the text without blanks has column one.
structure Malformed where
  column : Nat
  defect : Defect
  deriving DecidableEq

def Malformed.message (m : Malformed) : String :=
  "syntax error at column " ++ toString m.column ++ ": " ++ m.defect.message

end FormulaNumerics.Syntax
