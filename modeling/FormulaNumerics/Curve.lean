import FormulaNumerics.Formula.Basic

set_option autoImplicit false

namespace FormulaNumerics

-- The variable is in slot zero, and Euler's number stands in place of its name.
structure Curve where
  body : Term

namespace Curve

def source? (name : String) : Option Source :=
  if name = variableName then some (.slot 0)
  else if name = eulerName then some (.constant euler)
  else none

def ofFormula (f : Formula) : Except (Fault Float) Curve := do
  let body ← f.bind source?
  return ⟨body⟩

def ofText (text : String) : Except (Fault Float) Curve := do
  let f ← Formula.parse text
  ofFormula f

def value (c : Curve) (x : Float) : Except (Fault Float) Float :=
  c.body.evaluate [x]

-- The values so far are in `found`, latest first.
def collect (c : Curve) (found : List Float) : List Float → Except (Fault Float) (List Float)
  | [] => return found.reverse
  | x :: rest => do
    let y ← c.value x
    c.collect (y :: found) rest

def values (c : Curve) (xs : List Float) : Except (Fault Float) (List Float) :=
  c.collect [] xs

instance : BEq Curve := ⟨fun c d => c.body == d.body⟩

@[simp] theorem collect_nil (c : Curve) (found : List Float) :
    c.collect found [] = .ok found.reverse := rfl

theorem collect_cons (c : Curve) (found : List Float) (x : Float) (rest : List Float) :
    c.collect found (x :: rest) = (c.value x).bind fun y => c.collect (y :: found) rest := rfl

end Curve

end FormulaNumerics
