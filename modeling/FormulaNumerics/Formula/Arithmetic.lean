import FormulaNumerics.Fault
import FormulaNumerics.Formula.Operator

set_option autoImplicit false

namespace FormulaNumerics

def Operator.apply : Operator → Float → Float → Except (Fault Float) Float
  | .add, left, right => .ok (left + right)
  | .subtract, left, right => .ok (left - right)
  | .multiply, left, right => .ok (left * right)
  | .divide, left, right =>
    -- Both zeros are refused; a divisor that is not a number is not.
    if right == 0.0 then .error .divisionByZero else .ok (left / right)
  | .power, left, right => .ok (left ^ right)

def NamedFunction.apply : NamedFunction → Float → Except (Fault Float) Float
  | .sin, x => .ok x.sin
  | .cos, x => .ok x.cos
  | .tan, x => .ok x.tan
  | .ln, x => if x ≤ 0.0 then .error (.outsideDomain .ln x) else .ok x.log
  | .sqrt, x => if x < 0.0 then .error (.outsideDomain .sqrt x) else .ok x.sqrt

-- The value is looked at before the base.
def logarithm (base value : Float) : Except (Fault Float) Float :=
  if value ≤ 0.0 then .error (.outsideDomain .log value)
  else if base ≤ 0.0 || base == 1.0 then .error (.outsideDomain .logBase base)
  else .ok (value.log / base.log)

end FormulaNumerics
