import FormulaNumerics.Decimal.Layout
import FormulaNumerics.Syntax.Malformed
import FormulaNumerics.Text.Quoted

set_option autoImplicit false

namespace FormulaNumerics

inductive Site where
  | ln
  | sqrt
  | log
  | logBase
  deriving DecidableEq

def Site.text : Site → String
  | .ln => "ln"
  | .sqrt => "sqrt"
  | .log => "log"
  | .logBase => "log base"

-- A slot is missing only where a tree is evaluated on fewer values than it was made for.
inductive Fault (α : Type) where
  | malformed (error : Syntax.Malformed)
  | undefinedName (name : String)
  | divisionByZero
  | outsideDomain (site : Site) (argument : α)
  | invalidStep (step point : α)
  | invalidRange (step start stop : α)
  | missingSlot (index : Nat)
  deriving DecidableEq

namespace Fault

open Decimal (plain full)

def message : Fault Float → String
  | .malformed error => error.message
  | .undefinedName name => "undefined variable `" ++ name ++ "`"
  | .divisionByZero => "division by zero"
  | .outsideDomain site argument => "`" ++ site.text ++ "` is undefined for " ++ plain argument
  | .invalidStep step point =>
    "invalid differentiation step " ++ plain step ++ " at point " ++ plain point
  | .invalidRange step start stop =>
    "invalid integration range [" ++ plain start ++ ", " ++ plain stop ++ "] with step "
      ++ plain step
  | .missingSlot index => "missing slot " ++ toString index

def record (name : String) (parts : List (String × String)) : String :=
  name ++ " \x7b " ++ ", ".intercalate (parts.map fun (label, value) => label ++ ": " ++ value)
    ++ " \x7d"

def shown : Fault Float → String
  | .malformed error =>
    "Syntax(" ++ record "SyntaxError"
      [("column", toString error.column), ("message", Text.quote error.defect.message)] ++ ")"
  | .undefinedName name => "UndefinedVariable(" ++ Text.quote name ++ ")"
  | .divisionByZero => "DivisionByZero"
  | .outsideDomain site argument =>
    record "Domain" [("function", Text.quote site.text), ("argument", full argument)]
  | .invalidStep step point =>
    record "InvalidStep" [("step", full step), ("point", full point)]
  | .invalidRange step start stop =>
    record "InvalidRange" [("step", full step), ("start", full start), ("end", full stop)]
  | .missingSlot index => "MissingSlot(" ++ toString index ++ ")"

end Fault

structure Unreadable where
  field : String
  input : String
  deriving DecidableEq

def Unreadable.message (u : Unreadable) : String :=
  "invalid " ++ u.field ++ ": `" ++ u.input ++ "`"

end FormulaNumerics
