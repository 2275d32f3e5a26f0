set_option autoImplicit false

namespace FormulaNumerics.Syntax

-- The minus sign between operands and the one before an operand are two entries.
inductive Expectation where
  | endOfInput
  | expression
  | plus
  | minus
  | times
  | over
  | caret
  | negation
  | logarithm
  | functionCall
  | functionName
  | number
  | variableName
  deriving DecidableEq

namespace Expectation

def all : List Expectation :=
  [.endOfInput, .expression, .plus, .minus, .times, .over, .caret, .negation, .logarithm,
    .functionCall, .functionName, .number, .variableName]

def text : Expectation → String
  | .endOfInput => "end of input"
  | .expression => "expression"
  | .plus => "`+`"
  | .minus => "`-`"
  | .times => "`*`"
  | .over => "`/`"
  | .caret => "`^`"
  | .negation => "`-`"
  | .logarithm => "`log(base, value)`"
  | .functionCall => "function call"
  | .functionName => "function name"
  | .number => "number"
  | .variableName => "variable"

def listed (expected : List Expectation) : List Expectation :=
  all.filter (expected.contains ·)

def enumerate : List String → String
  | [] => "nothing"
  | [only] => only
  | [left, right] => left ++ " or " ++ right
  | items => ", ".intercalate items.dropLast ++ ", or " ++ items.getLastD ""

def sentence (expected : List Expectation) : String :=
  "expected " ++ enumerate ((listed expected).map text)

end Expectation

end FormulaNumerics.Syntax
