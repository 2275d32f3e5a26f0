set_option autoImplicit false

namespace FormulaNumerics

-- A higher level binds its operands first.
inductive Level where
  | sum
  | product
  | power
  deriving DecidableEq

def Level.rank : Level → Nat
  | .sum => 0
  | .product => 1
  | .power => 2

inductive Operator where
  | add
  | subtract
  | multiply
  | divide
  | power
  deriving DecidableEq

namespace Operator

def level : Operator → Level
  | .add | .subtract => .sum
  | .multiply | .divide => .product
  | .power => .power

def symbol : Operator → Char
  | .add => '+'
  | .subtract => '-'
  | .multiply => '*'
  | .divide => '/'
  | .power => '^'

def all : List Operator :=
  [.add, .subtract, .multiply, .divide, .power]

def ofSymbol? (c : Char) : Option Operator :=
  all.find? (·.symbol = c)

@[simp] theorem mem_all (op : Operator) : op ∈ all := by
  cases op <;> decide

@[simp] theorem ofSymbol?_symbol (op : Operator) : ofSymbol? op.symbol = some op := by
  cases op <;> rfl

theorem symbol_injective {op op' : Operator} (h : op.symbol = op'.symbol) : op = op' := by
  have found := congrArg ofSymbol? h
  simpa using found

end Operator

inductive NamedFunction where
  | sin
  | cos
  | tan
  | ln
  | sqrt
  deriving DecidableEq

namespace NamedFunction

def name : NamedFunction → String
  | .sin => "sin"
  | .cos => "cos"
  | .tan => "tan"
  | .ln => "ln"
  | .sqrt => "sqrt"

def all : List NamedFunction :=
  [.sin, .cos, .tan, .ln, .sqrt]

def ofName? (name : String) : Option NamedFunction :=
  all.find? (·.name = name)

@[simp] theorem mem_all (f : NamedFunction) : f ∈ all := by
  cases f <;> decide

@[simp] theorem ofName?_name (f : NamedFunction) : ofName? f.name = some f := by
  cases f <;> simp [ofName?, all, name]

end NamedFunction

end FormulaNumerics
