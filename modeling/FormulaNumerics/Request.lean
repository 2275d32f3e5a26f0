import FormulaNumerics.Curve
import FormulaNumerics.Numeric.Difference
import FormulaNumerics.Numeric.Quadrature

set_option autoImplicit false

namespace FormulaNumerics

inductive Request where
  | value (x : Float)
  | derivative (formula : DifferenceFormula) (step point : Float)
  | integral (rule : QuadratureRule) (step start stop : Float)

inductive Event where
  | asked (request : Request) (text : String)
  | answered (request : Request) (outcome : Except (Fault Float) Float)

structure Report where
  events : List Event
  outcome : Except (Fault Float) Float

namespace Request

def apply (request : Request) (curve : Curve) : Except (Fault Float) Float :=
  match request with
  | .value x => curve.value x
  | .derivative formula step point => formula.apply step point curve.value
  | .integral rule step start stop => rule.apply step start stop curve.value

-- A derivative or an integral of a text that gives no curve has no event for its outcome.
def run (request : Request) (text : String) : Report :=
  match Curve.ofText text with
  | .ok curve =>
    let outcome := request.apply curve
    ⟨[.asked request text, .answered request outcome], outcome⟩
  | .error fault =>
    match request with
    | .value _ => ⟨[.asked request text, .answered request (.error fault)], .error fault⟩
    | _ => ⟨[.asked request text], .error fault⟩

end Request

def evaluateAt (text : String) (x : Float) : Report :=
  (Request.value x).run text

def derivative (formula : DifferenceFormula) (step point : Float) (text : String) : Report :=
  (Request.derivative formula step point).run text

def integrate (rule : QuadratureRule) (step start stop : Float) (text : String) : Report :=
  (Request.integral rule step start stop).run text

def readNumber (field text : String) : Except Unreadable Float :=
  match Decimal.read? (Text.trim text.toList) with
  | some value => if value.isFinite then .ok value else .error ⟨field, text⟩
  | none => .error ⟨field, text⟩

def evaluateAtText (text x : String) : Except Unreadable Report := do
  let x ← readNumber "x" x
  return evaluateAt text x

def derivativeText (formula : DifferenceFormula) (step point text : String) :
    Except Unreadable Report := do
  let step ← readNumber "step size" step
  let point ← readNumber "point" point
  return derivative formula step point text

def integrateText (rule : QuadratureRule) (step start stop text : String) :
    Except Unreadable Report := do
  let step ← readNumber "step size" step
  let start ← readNumber "interval start" start
  let stop ← readNumber "interval end" stop
  return integrate rule step start stop text

end FormulaNumerics
