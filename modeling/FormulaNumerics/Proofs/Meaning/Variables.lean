import FormulaNumerics.Proofs.Meaning.Rendering
import FormulaNumerics.Proofs.Meaning.Routes

set_option autoImplicit false

namespace FormulaNumerics

namespace Text

def variableNames : Rendering String where
  name letters := [String.ofList letters]
  word _ := []
  symbol _ := []

def variablesIn (text : List Char) : List String :=
  variableNames.render text

end Text

namespace Syntax.Derivation

theorem rendered_variableNames {l : Layer} (d : Derivation l) :
    d.rendered Text.variableNames = d.names := by
  induction d with
  | single operand ih => exact ih
  | more run op atLevel operand runNames operandNames =>
    rw [rendered, names, runNames, operandNames]
    rfl
  | plain primary ih => exact ih
  | negated primary ih => exact ih
  | number literal wf => exact List.flatMap_eq_nil_iff.mpr fun _ _ => rfl
  | name letters wf => rfl
  | group inner ih => simpa [rendered, names, Text.variableNames] using ih
  | call function argument ih => simpa [rendered, names, Text.variableNames] using ih
  | log base value baseNames valueNames =>
    rw [rendered, names, baseNames, valueNames]
    simp [Text.variableNames]

theorem variablesIn_eq {l : Layer} (d : Derivation l) : Text.variablesIn d.text = d.names := by
  rw [Text.variablesIn, d.render_text, d.rendered_variableNames]

example : Text.variablesIn "a+sin(x)*b".toList = ["a", "x", "b"] := by decide

end Syntax.Derivation

theorem Formula.find?_names {s : String} {f : Formula} (accepted : parse s = .ok f)
    (undefined : String → Bool) :
    f.names.find? undefined = (Text.variablesIn (Text.strip s.toList)).find? undefined := by
  obtain ⟨d, spelled, rfl⟩ := exists_derivation accepted
  rw [← spelled, d.variablesIn_eq]
  change d.phrase.names.find? undefined = _
  rw [Syntax.Phrase.names, find?_eraseDups, Syntax.Derivation.occurrences_phrase]

namespace Curve

-- That the text is no formula at all comes first.
def refusal? (s : String) : Option (Fault Float) :=
  match Syntax.Phrase.parse s with
  | .error e => some (.malformed e)
  | .ok _ => ((Text.variablesIn (Text.strip s.toList)).find? fun name =>
      name ≠ variableName ∧ name ≠ eulerName).map .undefinedName

theorem source?_isNone (name : String) :
    (source? name).isNone = decide (name ≠ variableName ∧ name ≠ eulerName) := by
  rw [← Option.not_isSome, Bool.eq_iff_iff, Bool.not_eq_true', ← Bool.not_eq_true,
    source?_isSome, decide_eq_true_iff, not_or]

theorem ofFormula_of_undefined {f : Formula} {name : String}
    (first : f.names.find? (fun name => (source? name).isNone) = some name) :
    ofFormula f = .error (.undefinedName name) := by
  unfold ofFormula Formula.bind
  rw [Formula.resolve_of_undefined first]
  rfl

theorem exists_ofFormula_of_defined {f : Formula}
    (none : f.names.find? (fun name => (source? name).isNone) = none) :
    ∃ c : Curve, ofFormula f = .ok c := by
  obtain ⟨table, resolved⟩ := Formula.exists_resolve_of_find? none
  refine ⟨⟨f.root.supply table⟩, ?_⟩
  unfold ofFormula Formula.bind
  rw [resolved]
  rfl

theorem ofText_cases (s : String) :
    (∃ fault : Fault Float, refusal? s = some fault ∧ ofText s = .error fault) ∨
      (refusal? s = none ∧ ∃ c : Curve, ofText s = .ok c) := by
  unfold refusal? ofText
  cases parsed : Syntax.Phrase.parse s with
  | error e =>
    refine .inl ⟨_, rfl, ?_⟩
    rw [Formula.parse, parsed]
    rfl
  | ok p =>
    have accepted : Formula.parse s = .ok (.ofPhrase p) := by rw [Formula.parse, parsed]
    have names := Formula.find?_names accepted fun name => (source? name).isNone
    simp only [← source?_isNone, ← names, accepted]
    cases first : (Formula.ofPhrase p).names.find? fun name => (source? name).isNone with
    | some name => exact .inl ⟨.undefinedName name, rfl, ofFormula_of_undefined first⟩
    | none => exact .inr ⟨rfl, exists_ofFormula_of_defined first⟩

end Curve

end FormulaNumerics
