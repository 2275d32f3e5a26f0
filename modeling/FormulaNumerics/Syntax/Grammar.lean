import FormulaNumerics.Syntax.Phrase
import FormulaNumerics.Syntax.Rule
import FormulaNumerics.Text.Alphabetic

set_option autoImplicit false

namespace FormulaNumerics.Syntax.Grammar

open Rule

def operatorExpectation : Operator → Expectation
  | .add => .plus
  | .subtract => .minus
  | .multiply => .times
  | .divide => .over
  | .power => .caret

def operator : Rule Operator :=
  firstOf (Operator.all.map fun op =>
    named (operatorExpectation op) (do word [op.symbol]; pure op))

def literal : Rule Literal :=
  named .number (orElse
    (do
      let whole ← nonemptySpan Char.isDigit
      let pointed ← present (word ['.'])
      let fraction ← if pointed then span Char.isDigit else pure []
      pure ⟨whole, pointed, fraction⟩)
    (do
      word ['.']
      let fraction ← nonemptySpan Char.isDigit
      pure ⟨[], true, fraction⟩))

def variableName : Rule (List Char) :=
  named .variableName (nonemptySpan Text.isAlphabetic)

def functionName : Rule NamedFunction :=
  named .functionName (firstOf (NamedFunction.all.map fun f => do word f.name.toList; pure f))

section

variable (inner : Rule Phrase)

def logarithm : Rule Primary :=
  named .logarithm do
    word ['l', 'o', 'g']
    word ['(']
    let base ← inner
    word [',']
    let value ← inner
    word [')']
    pure (.log base value)

def functionCall : Rule Primary :=
  named .functionCall do
    let f ← functionName
    word ['(']
    let argument ← inner
    word [')']
    pure (.call f argument)

def group : Rule Primary := do
  word ['(']
  let phrase ← inner
  word [')']
  pure (.group phrase)

-- A word that opens no complete call is a variable name.
def primary : Rule Primary :=
  firstOf [logarithm inner, functionCall inner, Primary.number <$> literal,
    Primary.name <$> variableName, group inner]

def operand : Rule Operand := do
  let negative ← present (named .negation (word ['-']))
  let p ← primary inner
  pure (if negative then .negated p else .plain p)

def phraseBody (fuel : Nat) : Rule Phrase :=
  named .expression do
    let first ← operand inner
    let rest ← repeated fuel do
      let op ← operator
      let next ← operand inner
      pure (op, next)
    pure (.mk first rest)

end

def phrase (fuel : Nat) : (levels : Nat) → Rule Phrase
  | 0 => giveUp
  | levels + 1 => phraseBody (phrase fuel levels) fuel

def whole (fuel levels : Nat) : Rule Phrase := do
  let p ← phrase fuel levels
  named .endOfInput atEnd
  pure p

end FormulaNumerics.Syntax.Grammar
