import FormulaNumerics.Proofs.Meaning.Evaluation
import FormulaNumerics.Proofs.Meaning.Rendering
import Mathlib.Data.String.Basic

set_option autoImplicit false

namespace FormulaNumerics

namespace Text

def replacing (name replacement : List Char) : Rendering Char where
  name letters := if letters = name then replacement else letters
  word letters := letters
  symbol c := [c]

def replaceName (name replacement text : List Char) : List Char :=
  (replacing name replacement).render text

theorem forall_mem_replaceName {P : Char → Prop} (name : List Char) {replacement text : List Char}
    (old : ∀ c ∈ text, P c) (new : ∀ c ∈ replacement, P c) :
    ∀ c ∈ replaceName name replacement text, P c := by
  refine Rendering.forall_mem_renderAfter _ ?_ (fun _ read => read) ?_ (List.forall_mem_nil P) old
  · intro letters read
    unfold replacing
    simp only
    split
    next => exact new
    next => exact read
  · intro c read
    exact List.forall_mem_singleton.mpr read

end Text

namespace Syntax

namespace Derivation

def substitute (name : String) (inner : Derivation (.run .sum)) :
    {l : Layer} → Derivation l → Derivation l
  | _, single operand => single (substitute name inner operand)
  | _, more run op atLevel operand =>
    more (substitute name inner run) op atLevel (substitute name inner operand)
  | _, plain primary => plain (substitute name inner primary)
  | _, negated primary => negated (substitute name inner primary)
  | _, number literal wf => number literal wf
  | _, .name letters wf => if letters = name.toList then group inner else .name letters wf
  | _, group argument => group (substitute name inner argument)
  | _, call function argument => call function (substitute name inner argument)
  | _, log base value => log (substitute name inner base) (substitute name inner value)

theorem rendered_replacing (name : String) (inner : Derivation (.run .sum)) {l : Layer}
    (d : Derivation l) :
    d.rendered (Text.replacing name.toList ('(' :: (inner.text ++ [')']))) =
      (substitute name inner d).text := by
  induction d with
  | single operand ih => exact ih
  | more run op atLevel operand runText operandText =>
    rw [rendered, substitute, text, runText, operandText]
    rfl
  | plain primary ih => exact ih
  | negated primary ih =>
    rw [rendered, substitute, text, ih]
    rfl
  | number literal wf => exact List.flatMap_singleton' literal.text
  | name letters wf =>
    by_cases same : letters = name.toList
    · simp [rendered, substitute, text, Text.replacing, same]
    · simp [rendered, substitute, text, Text.replacing, same]
  | group argument ih =>
    rw [rendered, substitute, text, ih]
    rfl
  | call function argument ih =>
    rw [rendered, substitute, text, ih]
    rfl
  | log base value baseText valueText =>
    rw [rendered, substitute, text, baseText, valueText]
    rfl

theorem text_substitute (name : String) (inner : Derivation (.run .sum)) {l : Layer}
    (d : Derivation l) :
    Text.replaceName name.toList ('(' :: (inner.text ++ [')'])) d.text =
      (substitute name inner d).text := by
  rw [Text.replaceName, d.render_text, rendered_replacing]

theorem names_substitute (name : String) (inner : Derivation (.run .sum)) {l : Layer}
    (d : Derivation l) : (substitute name inner d).names =
      d.names.flatMap fun other => if other = name then inner.names else [other] := by
  induction d with
  | single operand ih => exact ih
  | more run op atLevel operand runNames operandNames =>
    rw [substitute, names, names, List.flatMap_append, runNames, operandNames]
  | plain primary ih => exact ih
  | negated primary ih => exact ih
  | number literal wf => rfl
  | name letters wf =>
    rw [substitute]
    by_cases same : letters = name.toList
    · simp [same, names]
    · simp [same, names, String.ofList_eq]
  | group argument ih => exact ih
  | call function argument ih => exact ih
  | log base value baseNames valueNames =>
    rw [substitute, names, names, List.flatMap_append, baseNames, valueNames]

theorem value_substitute {name : String} {inner : Derivation (.run .sum)} {v : Valuation}
    {w : Float} (valued : inner.value v = .ok w) {l : Layer} (d : Derivation l) :
    (substitute name inner d).value v = d.value (v.insert name w) := by
  induction d with
  | single operand ih => exact ih
  | more run op atLevel operand runValue operandValue =>
    rw [substitute, value, value, runValue, operandValue]
  | plain primary ih => exact ih
  | negated primary ih => rw [substitute, value, value, ih]
  | number literal wf => rfl
  | name letters wf =>
    rw [substitute]
    by_cases same : letters = name.toList
    · subst same
      rw [if_pos rfl, value, value, valued, String.ofList_toList, Valuation.get?_insert_self]
      rfl
    · have other : String.ofList letters ≠ name := fun named => same (String.ofList_eq.mp named)
      rw [if_neg same, value, value, Valuation.get?_insert_of_ne v w other]
  | group argument ih => exact ih
  | call function argument ih => rw [substitute, value, value, ih]
  | log base value baseValue valueValue =>
    rw [substitute, Derivation.value, Derivation.value, baseValue, valueValue]

end Derivation

end Syntax

namespace Formula

open Syntax

theorem find?_substituted {names inner : List String} {name : String} {v : Valuation} (w : Float)
    (defined : inner.find? (fun other => (v.get? other).isNone) = none) :
    (names.flatMap fun other => if other = name then inner else [other]).find?
        (fun other => (v.get? other).isNone) =
      names.find? fun other => ((v.insert name w).get? other).isNone := by
  induction names with
  | nil => rfl
  | cons head rest ih =>
    rw [List.flatMap_cons, List.find?_append, ih]
    by_cases same : head = name
    · subst same
      rw [if_pos rfl, defined, List.find?_cons_of_neg (by simp)]
      rfl
    · rw [if_neg same, List.find?_cons, List.find?_cons, Valuation.get?_insert_of_ne v w same]
      cases (v.get? head).isNone <;> rfl

-- A text with a value is accepted and all its names are defined.
theorem exists_value {t : String} {v : Valuation} {w : Float}
    (valued : FormulaNumerics.evaluate t v = .ok w) :
    ∃ d : Derivation (.run .sum), d.text = Text.strip t.toList ∧
      d.names.find? (fun name => (v.get? name).isNone) = none ∧ d.value v = .ok w := by
  obtain ⟨f, accepted, calculated⟩ := ok_of_bind valued
  obtain ⟨d, derives, rfl⟩ := exists_derivation accepted
  rw [evaluate_ofPhrase] at calculated
  cases first : d.names.find? (fun name => (v.get? name).isNone) with
  | some name =>
    rw [first] at calculated
    cases calculated
  | none =>
    rw [first] at calculated
    exact ⟨d, derives, first, calculated⟩

def substituted (s name t : String) : String :=
  String.ofList (Text.replaceName name.toList ('(' :: (Text.strip t.toList ++ [')']))
    (Text.strip s.toList))

theorem strip_substituted (s name t : String) :
    Text.strip (substituted s name t).toList = (substituted s name t).toList := by
  apply Text.strip_eq_self
  have nonblank (text : String) : ∀ c ∈ Text.strip text.toList, Text.isBlank c = false :=
    fun c member => ((Text.mem_strip _ c).mp member).2
  rw [substituted, String.toList_ofList]
  refine Text.forall_mem_replaceName _ (nonblank s) ?_
  have closed := List.forall_mem_append.mpr
    ⟨nonblank t, List.forall_mem_singleton.mpr (by decide : Text.isBlank ')' = false)⟩
  exact List.forall_mem_cons.mpr ⟨by decide, closed⟩

theorem evaluate_substituted {s : String} {f : Formula} (accepted : parse s = .ok f)
    (name : String) {t : String} {v : Valuation} {w : Float}
    (valued : FormulaNumerics.evaluate t v = .ok w)
    (shallow : peak 0 (substituted s name t).toList ≤ maxNesting) :
    (∃ g : Formula, parse (substituted s name t) = .ok g) ∧
      FormulaNumerics.evaluate (substituted s name t) v =
        FormulaNumerics.evaluate s (v.insert name w) := by
  obtain ⟨d, derives, rfl⟩ := exists_derivation accepted
  obtain ⟨inner, innerDerives, defined, innerValue⟩ := exists_value valued
  have spelled : (Derivation.substitute name inner d).text = (substituted s name t).toList := by
    rw [substituted, String.toList_ofList, ← derives, ← innerDerives, Derivation.text_substitute]
  have read : parse (substituted s name t) =
      .ok (ofPhrase (Derivation.substitute name inner d).phrase) := by
    refine (parse_eq_ok_iff _ _).mpr ⟨_, rfl, ?_, Derivation.wellFormed_phrase _, ?_⟩
    · rwa [strip_substituted]
    · rw [strip_substituted, Derivation.text_phrase, spelled]
  refine ⟨⟨_, read⟩, ?_⟩
  calc
    FormulaNumerics.evaluate (substituted s name t) v
        = (ofPhrase (Derivation.substitute name inner d).phrase).evaluate v := by
      rw [FormulaNumerics.evaluate, read]
      rfl
    _ = (ofPhrase d.phrase).evaluate (v.insert name w) := by
      rw [evaluate_ofPhrase, evaluate_ofPhrase, Derivation.names_substitute,
        find?_substituted w defined, Derivation.value_substitute innerValue]
    _ = FormulaNumerics.evaluate s (v.insert name w) := by
      rw [FormulaNumerics.evaluate, accepted]
      rfl

theorem evaluate_power_of_difference :
    substituted "a ^ b" "a" "b - c" = "(b-c)^b" ∧
      FormulaNumerics.evaluate "(b-c)^b" (.ofList [("b", 2), ("c", 3)]) = .ok ((2 - 3) ^ 2) := by
  have spelled : substituted "a ^ b" "a" "b - c" = "(b-c)^b" := by decide
  have accepted : ∃ f : Formula, parse "a ^ b" = .ok f := ⟨_, rfl⟩
  obtain ⟨f, accepted⟩ := accepted
  have valued : FormulaNumerics.evaluate "b - c" (.ofList [("b", 2), ("c", 3)]) = .ok (2 - 3) := rfl
  have bound := (evaluate_substituted accepted "a" valued (by decide)).2
  rw [spelled] at bound
  exact ⟨spelled, bound⟩

end Formula

end FormulaNumerics
