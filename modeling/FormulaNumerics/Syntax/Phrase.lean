import FormulaNumerics.Decimal.Reader
import FormulaNumerics.Formula.Operator

set_option autoImplicit false

namespace FormulaNumerics.Syntax

-- The point shows even where no digit follows it.
structure Literal where
  whole : List Char
  pointed : Bool
  fraction : List Char
  deriving DecidableEq

namespace Literal

def text (l : Literal) : List Char :=
  l.whole ++ (if l.pointed then '.' :: l.fraction else [])

def value (l : Literal) : Float :=
  Decimal.magnitude (l.whole ++ l.fraction) (-l.fraction.length)

end Literal

mutual

inductive Phrase where
  | mk (first : Operand) (rest : List (Operator × Operand))

inductive Operand where
  | plain (primary : Primary)
  | negated (primary : Primary)

inductive Primary where
  | number (literal : Literal)
  | name (letters : List Char)
  | group (inner : Phrase)
  | call (function : NamedFunction) (argument : Phrase)
  | log (base value : Phrase)

end

mutual

-- The names so far are in `seen`, latest first.
def Phrase.pushNames (seen : List String) : Phrase → List String
  | .mk first rest => pushRestNames (first.pushNames seen) rest

def Operand.pushNames (seen : List String) : Operand → List String
  | .plain primary => primary.pushNames seen
  | .negated primary => primary.pushNames seen

def Primary.pushNames (seen : List String) : Primary → List String
  | .number _ => seen
  | .name letters => String.ofList letters :: seen
  | .group inner => inner.pushNames seen
  | .call _ argument => argument.pushNames seen
  | .log base value => value.pushNames (base.pushNames seen)

def pushRestNames (seen : List String) : List (Operator × Operand) → List String
  | [] => seen
  | (_, operand) :: rest => pushRestNames (operand.pushNames seen) rest

end

namespace Phrase

def occurrences (p : Phrase) : List String :=
  (p.pushNames []).reverse

def names (p : Phrase) : List String :=
  p.occurrences.eraseDups

@[simp] theorem mem_names (p : Phrase) (name : String) :
    name ∈ p.names ↔ name ∈ p.occurrences := by
  simp [names]

end Phrase

end FormulaNumerics.Syntax
