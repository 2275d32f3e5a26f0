import FormulaNumerics.Formula.Arithmetic

set_option autoImplicit false

namespace FormulaNumerics

inductive Term where
  | chain (head : Term) (tail : List (Operator × Term))
  | neg (operand : Term)
  | call (function : NamedFunction) (argument : Term)
  | log (base value : Term)
  | literal (value : Float)
  | slot (index : Nat)

inductive Source where
  | slot (index : Nat)
  | constant (value : Float)

def Source.term : Source → Term
  | .slot index => .slot index
  | .constant value => .literal value

namespace Term

-- A chain of the level of the run lies open, so that the run continues it.
def opened (level : Level) : Term → Term × List (Operator × Term)
  | .chain head ((op, operand) :: rest) =>
    if op.level = level then (head, (op, operand) :: rest)
    else (.chain head ((op, operand) :: rest), [])
  | t => (t, [])

-- Without a run no node is made.
def extend (first : Term) (run : List (Operator × Term)) : Term :=
  match run with
  | [] => first
  | (op, _) :: _ =>
    let (head, tail) := first.opened op.level
    .chain head (tail ++ run)

def collapse (level : Level) (first : Term) (rest : List (Operator × Term)) :
    Term × List (Operator × Term) :=
  let (run, done) := rest.foldr (fun (op, operand) (run, done) =>
    if op.level = level then ((op, operand) :: run, done)
    else ([], (op, operand.extend run) :: done)) ([], [])
  (first.extend run, done)

def assemble (first : Term) (rest : List (Operator × Term)) : Term :=
  let (first, rest) := collapse .power first rest
  let (first, rest) := collapse .product first rest
  (collapse .sum first rest).1

mutual

def evaluate (slots : List Float) : Term → Except (Fault Float) Float
  | .chain head tail => do
    let value ← head.evaluate slots
    evaluateTail slots value tail
  | .neg operand => do
    let value ← operand.evaluate slots
    return -value
  | .call function argument => do
    let value ← argument.evaluate slots
    function.apply value
  | .log base value => do
    let b ← base.evaluate slots
    let v ← value.evaluate slots
    logarithm b v
  | .literal value => return value
  | .slot index =>
    match slots[index]? with
    | some value => return value
    | none => throw (.missingSlot index)

def evaluateTail (slots : List Float) (value : Float) :
    List (Operator × Term) → Except (Fault Float) Float
  | [] => return value
  | (op, operand) :: rest => do
    let right ← operand.evaluate slots
    let next ← op.apply value right
    evaluateTail slots next rest

end

mutual

def supply (table : List Source) : Term → Term
  | .chain head tail => .chain (head.supply table) (supplyTail table [] tail)
  | .neg operand => .neg (operand.supply table)
  | .call function argument => .call function (argument.supply table)
  | .log base value => .log (base.supply table) (value.supply table)
  | .literal value => .literal value
  | .slot index =>
    match table[index]? with
    | some source => source.term
    | none => .slot index

-- The operands replaced so far are in `done`, latest first.
def supplyTail (table : List Source) (done : List (Operator × Term)) :
    List (Operator × Term) → List (Operator × Term)
  | [] => done.reverse
  | (op, operand) :: rest => supplyTail table ((op, operand.supply table) :: done) rest

end

mutual

-- The two zeros are equal, and what is not a number differs from itself.
def same : Term → Term → Bool
  | .chain head tail, .chain head' tail' => head.same head' && sameTail tail tail'
  | .neg operand, .neg operand' => operand.same operand'
  | .call function argument, .call function' argument' =>
    function == function' && argument.same argument'
  | .log base value, .log base' value' => base.same base' && value.same value'
  | .literal value, .literal value' => value == value'
  | .slot index, .slot index' => index == index'
  | _, _ => false

def sameTail : List (Operator × Term) → List (Operator × Term) → Bool
  | [], [] => true
  | (op, operand) :: rest, (op', operand') :: rest' =>
    op == op' && operand.same operand' && sameTail rest rest'
  | _, _ => false

end

instance : BEq Term := ⟨same⟩

theorem supplyTail_eq (table : List Source) (done rest : List (Operator × Term)) :
    supplyTail table done rest =
      done.reverse ++ rest.map fun (op, operand) => (op, operand.supply table) := by
  induction rest generalizing done with
  | nil => simp [supplyTail]
  | cons entry rest ih => simp [supplyTail, ih]

theorem supply_chain (table : List Source) (head : Term) (tail : List (Operator × Term)) :
    (chain head tail).supply table =
      chain (head.supply table) (tail.map fun (op, operand) => (op, operand.supply table)) := by
  simp [supply, supplyTail_eq]

theorem evaluateTail_append (slots : List Float) (value : Float)
    (left right : List (Operator × Term)) :
    evaluateTail slots value (left ++ right) =
      (evaluateTail slots value left).bind fun middle => evaluateTail slots middle right := by
  induction left generalizing value with
  | nil => simp [evaluateTail, pure, Except.pure, Except.bind]
  | cons entry rest ih =>
    simp only [List.cons_append, evaluateTail, bind, ih]
    cases entry.2.evaluate slots with
    | error fault => rfl
    | ok operand =>
      change (entry.1.apply value operand).bind _ = ((entry.1.apply value operand).bind _).bind _
      cases entry.1.apply value operand <;> rfl

theorem opened_cases (level : Level) (t : Term) :
    t.opened level = (t, []) ∨ ∃ (head : Term) (tail : List (Operator × Term)),
      t = chain head tail ∧ (∀ entry ∈ tail.head?, entry.1.level = level) ∧
        t.opened level = (head, tail) := by
  unfold opened
  split
  next head op operand rest =>
    split
    next here => exact .inr ⟨head, (op, operand) :: rest, rfl, by simpa using here, rfl⟩
    next => exact .inl rfl
  next => exact .inl rfl

theorem evaluate_opened (slots : List Float) (level : Level) (first : Term) :
    first.evaluate slots =
      (first.opened level).1.evaluate slots >>= fun value =>
        evaluateTail slots value (first.opened level).2 := by
  obtain alone | ⟨head, tail, rfl, -, spliced⟩ := opened_cases level first
  · rw [alone]
    cases first.evaluate slots <;> rfl
  · rw [spliced, evaluate]

end Term

end FormulaNumerics
