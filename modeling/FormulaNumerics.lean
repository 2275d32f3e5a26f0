import FormulaNumerics.Proofs.Meaning.Routes
import FormulaNumerics.Proofs.Meaning.Substitution
import FormulaNumerics.Proofs.Syntax.Snags
import FormulaNumerics.Proofs.Syntax.Tracking
import FormulaNumerics.Trace
import FormulaNumerics.Proofs.Syntax.Failure
import FormulaNumerics.Proofs.Syntax.Halting
import FormulaNumerics.Proofs.Syntax.Places
import FormulaNumerics.Proofs.Syntax.Refusal
import FormulaNumerics.Proofs.Meaning.Faults
import FormulaNumerics.Proofs.Meaning.Variables
import FormulaNumerics.Proofs.Requests.Priority
import FormulaNumerics.Proofs.Requests.Tracing
import FormulaNumerics.Proofs.Meaning.Climbing
import FormulaNumerics.Proofs.Meaning.Flattening
import FormulaNumerics.Proofs.Meaning.Naming
import FormulaNumerics.Proofs.Meaning.Depth
import FormulaNumerics.Proofs.Meaning.Dependence
import FormulaNumerics.Proofs.Meaning.Binding
import FormulaNumerics.Proofs.Numeric.Walk
import FormulaNumerics.Proofs.Numeric.Panels
import FormulaNumerics.Proofs.Numeric.Sampling
import FormulaNumerics.Proofs.Numeric.Exact
import FormulaNumerics.Proofs.Numeric.Accuracy
import FormulaNumerics.Proofs.Numeric.Differences
import FormulaNumerics.Proofs.Numeric.Products
import FormulaNumerics.Proofs.Numeric.Divisors
import FormulaNumerics.Proofs.Numeric.Width
import FormulaNumerics.Proofs.Meaning.Equality
import FormulaNumerics.Proofs.Syntax.Agreement
import FormulaNumerics.Proofs.Syntax.Recursion
