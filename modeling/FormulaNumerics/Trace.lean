import FormulaNumerics.Request

set_option autoImplicit false

namespace FormulaNumerics

def traceVariable : String := "CALCULUS_EXPR_TRACE"

open Decimal (plain full)

def Request.title : Request → String
  | .value _ => "evaluate_at"
  | .derivative .. => "derivative"
  | .integral .. => "integrate"

def Request.details : Request → String
  | .value x => "x=" ++ plain x
  | .derivative formula step point =>
    formula.label ++ " h=" ++ plain step ++ " x=" ++ plain point
  | .integral rule step start stop =>
    rule.label ++ " h=" ++ plain step ++ " [" ++ plain start ++ ", " ++ plain stop ++ "]"

def showOutcome : Except (Fault Float) Float → String
  | .ok value => "Ok(" ++ full value ++ ")"
  | .error fault => "Err(" ++ fault.shown ++ ")"

def Event.line : Event → String
  | .asked request text =>
    "[TRACE] " ++ request.title ++ " " ++ request.details ++ " expression=" ++ Text.quote text
  | .answered request outcome =>
    "[TRACE] " ++ request.title ++ " -> " ++ showOutcome outcome

def Report.lines (report : Report) : List String :=
  report.events.map Event.line

end FormulaNumerics
