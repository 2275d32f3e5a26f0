import FormulaNumerics.Formula.Term
import FormulaNumerics.Syntax.Phrase

set_option autoImplicit false

namespace FormulaNumerics.Syntax

mutual

-- The variables are numbered by their place in `names`.
def Phrase.tree (names : List String) : Phrase → Term
  | .mk first rest => Term.assemble (first.tree names) (restTrees names [] rest)

def Operand.tree (names : List String) : Operand → Term
  | .plain primary => primary.tree names
  | .negated primary => .neg (primary.tree names)

def Primary.tree (names : List String) : Primary → Term
  | .number literal => .literal literal.value
  | .name letters => .slot (names.idxOf (String.ofList letters))
  | .group inner => inner.tree names
  | .call function argument => .call function (argument.tree names)
  | .log base value => .log (base.tree names) (value.tree names)

-- The trees of the operands so far are in `done`, latest first.
def restTrees (names : List String) (done : List (Operator × Term)) :
    List (Operator × Operand) → List (Operator × Term)
  | [] => done.reverse
  | (op, operand) :: rest => restTrees names ((op, operand.tree names) :: done) rest

end

theorem restTrees_eq (names : List String) (done : List (Operator × Term))
    (rest : List (Operator × Operand)) :
    restTrees names done rest =
      done.reverse ++ rest.map fun (op, operand) => (op, operand.tree names) := by
  induction rest generalizing done with
  | nil => simp [restTrees]
  | cons entry rest ih => simp [restTrees, ih]

theorem Phrase.tree_mk (names : List String) (first : Operand)
    (rest : List (Operator × Operand)) :
    (Phrase.mk first rest).tree names =
      Term.assemble (first.tree names)
        (rest.map fun (op, operand) => (op, operand.tree names)) := by
  simp [Phrase.tree, restTrees_eq]

end FormulaNumerics.Syntax
