import FormulaNumerics.Proofs.Meaning.Variables
import FormulaNumerics.Trace

set_option autoImplicit false

namespace FormulaNumerics

def Request.question (request : Request) (text : String) : String :=
  "[TRACE] " ++ request.title ++ " " ++ request.details ++ " expression=" ++ Text.quote text

def Request.answer (request : Request) (outcome : Except (Fault Float) Float) : String :=
  "[TRACE] " ++ request.title ++ " -> " ++ showOutcome outcome

-- The trace shows the request and then the outcome that is reported, and nothing else.
def Report.Complete (report : Report) (request : Request) (text : String) : Prop :=
  report.lines = [request.question text, request.answer report.outcome]

namespace Request

variable {request : Request} {text : String}

theorem complete_of_curve {c : Curve} (built : Curve.ofText text = .ok c) :
    (request.run text).Complete request text := by
  unfold run Report.Complete
  rw [built]
  rfl

theorem complete_of_value (x : Float) (text : String) :
    ((Request.value x).run text).Complete (.value x) text := by
  unfold run Report.Complete
  cases Curve.ofText text <;> rfl

theorem lines_of_fault {fault : Fault Float} (notValue : ∀ x : Float, request ≠ .value x)
    (failed : Curve.ofText text = .error fault) :
    (request.run text).lines = [request.question text] ∧
      (request.run text).outcome = .error fault := by
  unfold run
  rw [failed]
  cases request with
  | value x => exact absurd rfl (notValue x)
  | derivative formula step point => exact ⟨rfl, rfl⟩
  | integral rule step start stop => exact ⟨rfl, rfl⟩

theorem not_complete_of_lines (unanswered : (request.run text).lines = [request.question text]) :
    ¬ (request.run text).Complete request text := by
  intro complete
  have lengths := congrArg List.length (unanswered.symm.trans complete)
  simp at lengths

theorem trace_complete_iff (request : Request) (text : String) :
    ((request.run text).Complete request text ↔ (∃ x : Float, request = .value x) ∨
      ∃ names : List String, Formula.namesIn text = .ok names ∧
        ∀ name ∈ names, name = variableName ∨ name = eulerName) ∧
    (¬ (request.run text).Complete request text →
      (request.run text).lines = [request.question text] ∧
      ∃ fault : Fault Float, Curve.refusal? text = some fault ∧
        (request.run text).outcome = .error fault) := by
  rw [← Curve.exists_ofText_iff]
  by_cases isValue : ∃ x : Float, request = .value x
  · obtain ⟨x, rfl⟩ := isValue
    have complete := complete_of_value x text
    exact ⟨iff_of_true complete (.inl ⟨x, rfl⟩), fun incomplete => absurd complete incomplete⟩
  · obtain ⟨fault, refused, failed⟩ | ⟨-, built⟩ := Curve.ofText_cases text
    · obtain ⟨lines, outcome⟩ := lines_of_fault (fun x same => isValue ⟨x, same⟩) failed
      have noCurve : ¬ ∃ c : Curve, Curve.ofText text = .ok c := by simp [failed]
      refine ⟨iff_of_false (not_complete_of_lines lines) (not_or.mpr ⟨isValue, noCurve⟩), ?_⟩
      intro
      exact ⟨lines, fault, refused, outcome⟩
    · obtain ⟨c, made⟩ := built
      have complete : (request.run text).Complete request text := complete_of_curve made
      exact ⟨iff_of_true complete (.inr ⟨c, made⟩), fun incomplete => absurd complete incomplete⟩

-- The text breaks off: the derivative is refused, and the trace does not say so.
theorem trace_of_open_sum_incomplete :
    ¬ ((Request.derivative .threePoint 1 1).run "1+").Complete (.derivative .threePoint 1 1)
      "1+" := by
  refine not_complete_of_lines ?_
  rfl

end Request

end FormulaNumerics
