import FormulaNumerics.Proofs.Meaning.Naming

set_option autoImplicit false

namespace FormulaNumerics

structure Valuation.FirstUndefined (v : Valuation) (occurrences : List String) (name : String) :
    Prop where
  occurs : name ∈ occurrences
  undefined : v.get? name = none
  first : ∀ other ∈ occurrences, v.get? other = none →
    occurrences.idxOf name ≤ occurrences.idxOf other

namespace Valuation

variable {v : Valuation} {occurrences : List String} {name : String}

theorem firstUndefined_of_find?
    (found : occurrences.find? (fun name => (v.get? name).isNone) = some name) :
    v.FirstUndefined occurrences name := by
  obtain ⟨undefined, before, after, split, defined⟩ := List.find?_eq_some_iff_append.mp found
  have notBefore {other : String} (missing : v.get? other = none) : other ∉ before := by
    intro member
    have known := defined other member
    simp [missing] at known
  rw [Option.isNone_iff_eq_none] at undefined
  subst split
  refine ⟨by simp, undefined, ?_⟩
  intro other _ missing
  rw [List.idxOf_append_of_notMem (notBefore undefined),
    List.idxOf_append_of_notMem (notBefore missing), List.idxOf_cons_self]
  exact Nat.add_le_add_left (Nat.zero_le _) _

theorem find?_eq_some_iff :
    occurrences.find? (fun name => (v.get? name).isNone) = some name ↔
      v.FirstUndefined occurrences name := by
  constructor
  · exact firstUndefined_of_find?
  · intro isFirst
    cases found : occurrences.find? (fun name => (v.get? name).isNone) with
    | none =>
      have defined := List.find?_eq_none.mp found name isFirst.occurs
      simp [isFirst.undefined] at defined
    | some other =>
      have isFirst' := firstUndefined_of_find? found
      have samePlace := Nat.le_antisymm
        (isFirst'.first name isFirst.occurs isFirst.undefined)
        (isFirst.first other isFirst'.occurs isFirst'.undefined)
      rw [(List.idxOf_inj isFirst'.occurs).mp samePlace]

end Valuation

namespace Formula

theorem resolve_congr {α : Type} {answer answer' : String → Option α} {names : List String}
    (agree : ∀ name ∈ names, answer name = answer' name) :
    resolve answer names = resolve answer' names := by
  induction names with
  | nil => rfl
  | cons name rest ih =>
    obtain ⟨here, others⟩ := List.forall_mem_cons.mp agree
    rw [resolve, resolve, here, ih others]

theorem evaluate_congr {f : Formula} {v w : Valuation}
    (agree : ∀ name ∈ f.names, v.get? name = w.get? name) : f.evaluate v = f.evaluate w := by
  unfold evaluate
  rw [resolve_congr agree]

theorem evaluate_eq_undefinedName_iff {f : Formula} (within : f.root.Within f.names.length)
    (v : Valuation) (name : String) : f.evaluate v = .error (.undefinedName name) ↔
      f.names.find? (fun name => (v.get? name).isNone) = some name := by
  constructor
  · intro undefined
    cases first : f.names.find? (fun name => (v.get? name).isNone) with
    | some other =>
      rw [evaluate_of_undefined first] at undefined
      cases undefined
      rfl
    | none => exact absurd undefined ((calculated_of_defined within first).ne_undefinedName name)
  · exact evaluate_of_undefined

theorem undefined_or_determined {s : String} {f : Formula} (accepted : parse s = .ok f) :
    ∃ names : List String, namesIn s = .ok names ∧
      (∀ v : Valuation,
        (∃ name : String, FormulaNumerics.evaluate s v = .error (.undefinedName name)) ↔
          ∃ name ∈ names, v.get? name = none) ∧
      (∀ (v : Valuation) (name : String),
        FormulaNumerics.evaluate s v = .error (.undefinedName name) ↔
          v.FirstUndefined (Text.variablesIn (Text.strip s.toList)) name) ∧
      ∀ v w : Valuation, (∀ name ∈ names, v.get? name = w.get? name) →
        FormulaNumerics.evaluate s v = FormulaNumerics.evaluate s w := by
  have undefined_iff := evaluate_eq_undefinedName_iff (within_of_parse accepted)
  simp only [evaluate_of_parse accepted]
  refine ⟨f.names, namesIn_eq_of_parse accepted, ?_, ?_, fun v w => evaluate_congr⟩
  · intro v
    simp only [undefined_iff, ← Option.isSome_iff_exists, List.find?_isSome,
      Option.isNone_iff_eq_none]
  · intro v name
    rw [undefined_iff, find?_names accepted, Valuation.find?_eq_some_iff]

theorem undefined_behind_division :
    ∃ f : Formula, parse "1 / 0 + b * a" = .ok f ∧
      FormulaNumerics.evaluate "1 / 0 + b * a" .empty = .error (.undefinedName "b") ∧
      FormulaNumerics.evaluate "1 / 0 + b * a" (.ofList [("a", 1), ("b", 2)]) =
        FormulaNumerics.evaluate "1 / 0 + b * a"
          (.ofList [("b", 7), ("c", 3), ("b", 2), ("a", 1)]) := by
  obtain ⟨f, accepted⟩ : ∃ f : Formula, parse "1 / 0 + b * a" = .ok f := ⟨_, rfl⟩
  obtain ⟨names, listed, -, undefined, determined⟩ := undefined_or_determined accepted
  obtain rfl : ["b", "a"] = names := Except.ok.inj listed
  refine ⟨f, accepted, (undefined .empty "b").mpr ⟨by decide, rfl, by decide⟩, ?_⟩
  refine determined _ _ ?_
  simp only [List.forall_mem_cons]
  exact ⟨rfl, rfl, by simp⟩

end Formula

end FormulaNumerics
