import FormulaNumerics.Syntax.Phrase
import FormulaNumerics.Text.Alphabetic

set_option autoImplicit false

namespace FormulaNumerics.Syntax

structure Literal.WellFormed (l : Literal) : Prop where
  wholeDigits : ∀ c ∈ l.whole, c.isDigit = true
  fractionDigits : ∀ c ∈ l.fraction, c.isDigit = true
  unpointed : l.pointed = false → l.fraction = []
  someDigit : l.whole ≠ [] ∨ l.fraction ≠ []

structure IsName (letters : List Char) : Prop where
  nonempty : letters ≠ []
  alphabetic : ∀ c ∈ letters, Text.isAlphabetic c = true

mutual

def Phrase.text : Phrase → List Char
  | .mk first rest => first.text ++ restText rest

def Operand.text : Operand → List Char
  | .plain primary => primary.text
  | .negated primary => '-' :: primary.text

def Primary.text : Primary → List Char
  | .number literal => literal.text
  | .name letters => letters
  | .group inner => '(' :: (inner.text ++ [')'])
  | .call function argument => function.name.toList ++ '(' :: (argument.text ++ [')'])
  | .log base value => ['l', 'o', 'g', '('] ++ (base.text ++ ',' :: (value.text ++ [')']))

def restText : List (Operator × Operand) → List Char
  | [] => []
  | (op, operand) :: rest => op.symbol :: (operand.text ++ restText rest)

end

mutual

def Phrase.WellFormed : Phrase → Prop
  | .mk first rest => first.WellFormed ∧ RestWellFormed rest

def Operand.WellFormed : Operand → Prop
  | .plain primary => primary.WellFormed
  | .negated primary => primary.WellFormed

def Primary.WellFormed : Primary → Prop
  | .number literal => literal.WellFormed
  | .name letters => IsName letters
  | .group inner => inner.WellFormed
  | .call _ argument => argument.WellFormed
  | .log base value => base.WellFormed ∧ value.WellFormed

def RestWellFormed : List (Operator × Operand) → Prop
  | [] => True
  | (_, operand) :: rest => operand.WellFormed ∧ RestWellFormed rest

end

mutual

-- Each pair of parentheses counts, whether it groups or holds arguments.
def Phrase.nesting : Phrase → Nat
  | .mk first rest => max first.nesting (restNesting rest)

def Operand.nesting : Operand → Nat
  | .plain primary => primary.nesting
  | .negated primary => primary.nesting

def Primary.nesting : Primary → Nat
  | .number _ => 0
  | .name _ => 0
  | .group inner => inner.nesting + 1
  | .call _ argument => argument.nesting + 1
  | .log base value => max base.nesting value.nesting + 1

def restNesting : List (Operator × Operand) → Nat
  | [] => 0
  | (_, operand) :: rest => max operand.nesting (restNesting rest)

end

def Phrase.join : Phrase → Operator → Phrase → Phrase
  | .mk first rest, op, .mk first' rest' => .mk first (rest ++ (op, first') :: rest')

theorem restText_append (left right : List (Operator × Operand)) :
    restText (left ++ right) = restText left ++ restText right := by
  induction left with
  | nil => rfl
  | cons entry left ih => simp [restText, ih]

theorem restWellFormed_append (left right : List (Operator × Operand)) :
    RestWellFormed (left ++ right) ↔ RestWellFormed left ∧ RestWellFormed right := by
  induction left with
  | nil => simp [RestWellFormed]
  | cons entry left ih => simp [RestWellFormed, ih, and_assoc]

@[simp] theorem Phrase.text_join (left right : Phrase) (op : Operator) :
    (left.join op right).text = left.text ++ op.symbol :: right.text := by
  obtain ⟨first, rest⟩ := left
  obtain ⟨first', rest'⟩ := right
  simp [join, Phrase.text, restText_append, restText]

@[simp] theorem Phrase.wellFormed_join (left right : Phrase) (op : Operator) :
    (left.join op right).WellFormed ↔ left.WellFormed ∧ right.WellFormed := by
  obtain ⟨first, rest⟩ := left
  obtain ⟨first', rest'⟩ := right
  simp [join, Phrase.WellFormed, restWellFormed_append, RestWellFormed, and_assoc]

theorem Phrase.join_assoc (left middle right : Phrase) (op op' : Operator) :
    (left.join op middle).join op' right = left.join op (middle.join op' right) := by
  obtain ⟨first, rest⟩ := left
  obtain ⟨first', rest'⟩ := middle
  obtain ⟨first'', rest''⟩ := right
  simp [join]

theorem length_restText (rest : List (Operator × Operand)) :
    rest.length ≤ (restText rest).length := by
  induction rest with
  | nil => simp
  | cons entry rest ih =>
    simp only [restText, List.length_cons, List.length_append]
    omega

end FormulaNumerics.Syntax
