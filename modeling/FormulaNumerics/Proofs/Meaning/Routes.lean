import FormulaNumerics.Proofs.Meaning.Supply
import FormulaNumerics.Request

set_option autoImplicit false

namespace FormulaNumerics

theorem Valuation.get?_atPoint (x : Float) (name : String) :
    (atPoint x).get? name = (Curve.source? name).bind (Source.value? [x]) := by
  have distinct : variableName ≠ eulerName := by decide
  by_cases isEuler : name = eulerName
  · subst isEuler
    simp [atPoint, Curve.source?, distinct.symm, Source.value?]
  · rw [atPoint, get?_insert_of_ne _ _ isEuler]
    by_cases isVariable : name = variableName
    · subst isVariable
      simp [Curve.source?, Source.value?]
    · rw [get?_insert_of_ne _ _ isVariable]
      simp [Curve.source?, isVariable, isEuler]

theorem Curve.source?_isSome (name : String) :
    (source? name).isSome = true ↔ name = variableName ∨ name = eulerName := by
  unfold source?
  split
  next isVariable => simp [isVariable]
  next notVariable =>
    split
    next isEuler => simp [isEuler]
    next notEuler => simp [notVariable, notEuler]

theorem Valuation.isSome_get?_atPoint (x : Float) (name : String) :
    ((atPoint x).get? name).isSome = (Curve.source? name).isSome := by
  rw [get?_atPoint]
  unfold Curve.source?
  split
  next => rfl
  next =>
    split
    next => rfl
    next => rfl

namespace Curve

theorem value_ofFormula {f : Formula} (within : f.root.Within f.names.length) (x : Float) :
    (do let c ← ofFormula f; c.value x) = f.evaluate (.atPoint x) := by
  have sameMissing : f.names.find? (fun name => ((Valuation.atPoint x).get? name).isNone) =
      f.names.find? (fun name => (source? name).isNone) := by
    congr 1
    funext name
    rw [← Option.not_isSome, ← Option.not_isSome, Valuation.isSome_get?_atPoint]
  unfold ofFormula Formula.bind Formula.evaluate
  cases first : f.names.find? (fun name => (source? name).isNone) with
  | some name =>
    rw [Formula.resolve_of_undefined first, Formula.resolve_of_undefined (sameMissing.trans first)]
    rfl
  | none =>
    obtain ⟨table, resolved⟩ := Formula.exists_resolve_of_find? first
    obtain ⟨values, valued⟩ := Formula.exists_resolve_of_find? (sameMissing.trans first)
    rw [resolved, valued]
    have points := (Formula.resolve_eq_ok_iff _ _ _).mp valued
    have given : table.map (Source.value? [x]) = values.map some := by
      calc
        table.map (Source.value? [x])
            = f.names.map fun name => (source? name).bind (Source.value? [x]) :=
          Formula.map_value?_of_resolve resolved [x]
        _ = f.names.map (Valuation.atPoint x).get? :=
          List.map_congr_left fun name _ => (Valuation.get?_atPoint x name).symm
        _ = values.map some := points
    rw [← Formula.length_of_resolve resolved] at within
    exact Term.evaluate_supply given f.root within

theorem value_ofText (s : String) (x : Float) :
    (do let c ← ofText s; c.value x) = FormulaNumerics.evaluate s (.atPoint x) := by
  unfold ofText FormulaNumerics.evaluate
  cases accepted : Formula.parse s with
  | error fault => rfl
  | ok f => exact value_ofFormula (Formula.within_of_parse accepted) x

theorem exists_ofFormula_iff (f : Formula) :
    (∃ c : Curve, ofFormula f = .ok c) ↔
      ∀ name ∈ f.names, name = variableName ∨ name = eulerName := by
  simp only [← source?_isSome, ← Formula.exists_resolve_iff]
  unfold ofFormula Formula.bind
  cases Formula.resolve source? f.names with
  | error fault =>
    constructor
    · rintro ⟨c, built⟩
      cases built
    · rintro ⟨table, resolved⟩
      cases resolved
  | ok table => exact iff_of_true ⟨⟨f.root.supply table⟩, rfl⟩ ⟨table, rfl⟩

theorem exists_ofText_iff (s : String) :
    (∃ c : Curve, ofText s = .ok c) ↔ ∃ names : List String, Formula.namesIn s = .ok names ∧
      ∀ name ∈ names, name = variableName ∨ name = eulerName := by
  unfold ofText Formula.namesIn Formula.parse
  cases Syntax.Phrase.parse s with
  | error e =>
    constructor
    · rintro ⟨c, built⟩
      cases built
    · rintro ⟨names, listed, -⟩
      cases listed
  | ok p =>
    simp only [Except.ok.injEq, exists_eq_left']
    exact exists_ofFormula_iff (Formula.ofPhrase p)

theorem collect_eq (c : Curve) (found xs : List Float) :
    c.collect found xs = (c.values xs).map (found.reverse ++ ·) := by
  unfold values
  induction xs generalizing found with
  | nil => simp [Except.map]
  | cons x rest ih =>
    rw [collect_cons, collect_cons]
    cases c.value x with
    | error fault => rfl
    | ok y =>
      simp only [Except.bind]
      rw [ih (y :: found), ih [y]]
      cases c.collect [] rest with
      | error fault => rfl
      | ok ys => simp [Except.map]

theorem values_cons (c : Curve) (x : Float) (rest : List Float) :
    c.values (x :: rest) = (c.value x).bind fun y => (c.values rest).map (y :: ·) := by
  rw [values, collect_cons]
  congr 1
  funext y
  exact collect_eq c [y] rest

theorem values_eq_ok_iff (c : Curve) (xs ys : List Float) :
    c.values xs = .ok ys ↔ xs.map c.value = ys.map .ok := by
  induction xs generalizing ys with
  | nil => cases ys <;> simp [values]
  | cons x rest ih =>
    rw [values_cons, List.map_cons]
    cases c.value x with
    | error fault => cases ys <;> simp [Except.bind]
    | ok y =>
      cases ys with
      | nil => cases c.values rest <;> simp [Except.bind, Except.map]
      | cons first others =>
        rw [List.map_cons, List.cons.injEq, ← ih others]
        cases c.values rest <;> simp [Except.bind, Except.map]

theorem values_cons_eq_error_iff (c : Curve) (x : Float) (rest : List Float)
    (fault : Fault Float) : c.values (x :: rest) = .error fault ↔ c.value x = .error fault ∨
      (∃ value : Float, c.value x = .ok value) ∧ c.values rest = .error fault := by
  rw [values_cons]
  cases c.value x with
  | error first => simp [Except.bind]
  | ok y => cases c.values rest <;> simp [Except.bind, Except.map]

theorem values_eq_error_iff (c : Curve) (xs : List Float) (fault : Fault Float) :
    c.values xs = .error fault ↔ ∃ (before : List Float) (x : Float) (after : List Float),
      xs = before ++ x :: after ∧ (∀ y ∈ before, ∃ value : Float, c.value y = .ok value) ∧
        c.value x = .error fault := by
  induction xs with
  | nil => simp [values]
  | cons head rest ih =>
    rw [values_cons_eq_error_iff, ih]
    constructor
    · rintro (failed | ⟨known, before, x, after, rfl, succeed, failed⟩)
      · exact ⟨[], head, rest, rfl, by simp, failed⟩
      · exact ⟨head :: before, x, after, rfl, List.forall_mem_cons.mpr ⟨known, succeed⟩, failed⟩
    · rintro ⟨before, x, after, split, succeed, failed⟩
      cases before with
      | nil =>
        obtain ⟨rfl, -⟩ := List.cons.inj split
        exact .inl failed
      | cons first others =>
        obtain ⟨rfl, rfl⟩ := List.cons.inj split
        obtain ⟨known, later⟩ := List.forall_mem_cons.mp succeed
        exact .inr ⟨known, others, x, after, rfl, later, failed⟩

end Curve

theorem outcome_evaluateAt (s : String) (x : Float) :
    (evaluateAt s x).outcome = (do let c ← Curve.ofText s; c.value x) := by
  unfold evaluateAt Request.run
  cases Curve.ofText s <;> rfl

theorem routes_agree (s : String) :
    (∀ x : Float, (do let c ← Curve.ofText s; c.value x) = evaluate s (.atPoint x) ∧
      (evaluateAt s x).outcome = evaluate s (.atPoint x) ∧
      (do let f ← Formula.parse s; f.evaluate (.atPoint x)) = evaluate s (.atPoint x)) ∧
    ((∃ c : Curve, Curve.ofText s = .ok c) ↔ ∃ names : List String,
      Formula.namesIn s = .ok names ∧ ∀ name ∈ names, name = variableName ∨ name = eulerName) ∧
    ∀ c : Curve, Curve.ofText s = .ok c → ∀ xs : List Float,
      (∀ ys : List Float, c.values xs = .ok ys ↔
        xs.map (fun x => evaluate s (.atPoint x)) = ys.map .ok) ∧
      ∀ fault : Fault Float, c.values xs = .error fault ↔
        ∃ (before : List Float) (x : Float) (after : List Float), xs = before ++ x :: after ∧
          (∀ y ∈ before, ∃ value : Float, evaluate s (.atPoint y) = .ok value) ∧
          evaluate s (.atPoint x) = .error fault := by
  refine ⟨?_, Curve.exists_ofText_iff s, ?_⟩
  · intro x
    have curve := Curve.value_ofText s x
    exact ⟨curve, (outcome_evaluateAt s x).trans curve, rfl⟩
  · intro c built xs
    have sameValue (x : Float) : evaluate s (.atPoint x) = c.value x := by
      rw [← Curve.value_ofText, built]
      rfl
    simp only [sameValue]
    exact ⟨c.values_eq_ok_iff xs, c.values_eq_error_iff xs⟩

end FormulaNumerics
