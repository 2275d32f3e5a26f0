import FormulaNumerics.Proofs.Meaning.Routes

set_option autoImplicit false

namespace FormulaNumerics

inductive Fault.Arithmetic : Fault Float → Prop where
  | divisionByZero : Arithmetic .divisionByZero
  | outsideDomain (site : Site) (argument : Float) : Arithmetic (.outsideDomain site argument)

-- Nothing can be wrong but the numbers.
def Calculated {α : Type} (outcome : Except (Fault Float) α) : Prop :=
  ∀ fault : Fault Float, outcome = .error fault → fault.Arithmetic

namespace Calculated

variable {α β : Type}

theorem ok (value : α) : Calculated (.ok value) := by
  intro fault failed
  cases failed

theorem error {fault : Fault Float} (arithmetic : fault.Arithmetic) :
    Calculated (.error fault : Except (Fault Float) α) := by
  intro fault' failed
  cases failed
  exact arithmetic

theorem ne_missingSlot {outcome : Except (Fault Float) α} (calculated : Calculated outcome)
    (index : Nat) : outcome ≠ .error (.missingSlot index) := by
  intro missing
  cases calculated _ missing

theorem ne_undefinedName {outcome : Except (Fault Float) α} (calculated : Calculated outcome)
    (name : String) : outcome ≠ .error (.undefinedName name) := by
  intro undefined
  cases calculated _ undefined

theorem bind {outcome : Except (Fault Float) α} {next : α → Except (Fault Float) β}
    (first : Calculated outcome) (later : ∀ value : α, Calculated (next value)) :
    Calculated (outcome >>= next) := by
  cases outcome with
  | error fault => exact error (first fault rfl)
  | ok value => exact later value

theorem guarded {condition : Prop} [Decidable condition] {fault : Fault Float}
    {outcome : Except (Fault Float) α} (arithmetic : fault.Arithmetic)
    (otherwise : Calculated outcome) :
    Calculated (if condition then .error fault else outcome) := by
  split
  next => exact error arithmetic
  next => exact otherwise

end Calculated

open Calculated

theorem Operator.calculated_apply (op : Operator) (left right : Float) :
    Calculated (op.apply left right) := by
  cases op with
  | divide => exact guarded .divisionByZero (ok _)
  | add => exact ok _
  | subtract => exact ok _
  | multiply => exact ok _
  | power => exact ok _

theorem NamedFunction.calculated_apply (f : NamedFunction) (x : Float) :
    Calculated (f.apply x) := by
  cases f with
  | ln => exact guarded (.outsideDomain .ln x) (ok _)
  | sqrt => exact guarded (.outsideDomain .sqrt x) (ok _)
  | sin => exact ok _
  | cos => exact ok _
  | tan => exact ok _

theorem calculated_logarithm (base value : Float) : Calculated (logarithm base value) :=
  guarded (.outsideDomain .log value) (guarded (.outsideDomain .logBase base) (ok _))

namespace Term

mutual

theorem calculated_evaluate {slots : List Float} (t : Term) (within : t.Within slots.length) :
    Calculated (t.evaluate slots) := by
  match t with
  | .chain head tail =>
    rw [Term.evaluate]
    exact (calculated_evaluate head within.1).bind (calculated_evaluateTail tail within.2)
  | .neg operand =>
    rw [Term.evaluate]
    exact (calculated_evaluate operand within).bind fun value => ok (-value)
  | .call function argument =>
    rw [Term.evaluate]
    exact (calculated_evaluate argument within).bind function.calculated_apply
  | .log base value =>
    rw [Term.evaluate]
    refine (calculated_evaluate base within.1).bind fun b => ?_
    exact (calculated_evaluate value within.2).bind (calculated_logarithm b)
  | .literal value => exact ok value
  | .slot index =>
    have inside : index < slots.length := within
    simp only [Term.evaluate, List.getElem?_eq_getElem inside]
    exact ok _

theorem calculated_evaluateTail {slots : List Float} (tail : List (Operator × Term))
    (within : TailWithin slots.length tail) (value : Float) :
    Calculated (evaluateTail slots value tail) := by
  match tail with
  | [] => exact ok value
  | (op, operand) :: rest =>
    rw [evaluateTail]
    refine (calculated_evaluate operand within.1).bind fun right => ?_
    exact (op.calculated_apply value right).bind (calculated_evaluateTail rest within.2)

end

end Term

namespace Formula

theorem evaluate_of_undefined {f : Formula} {v : Valuation} {name : String}
    (first : f.names.find? (fun name => (v.get? name).isNone) = some name) :
    f.evaluate v = .error (.undefinedName name) := by
  unfold evaluate
  rw [resolve_of_undefined first]
  rfl

theorem calculated_of_defined {f : Formula} (within : f.root.Within f.names.length)
    {v : Valuation} (none : f.names.find? (fun name => (v.get? name).isNone) = none) :
    Calculated (f.evaluate v) := by
  obtain ⟨slots, resolved⟩ := exists_resolve_of_find? none
  rw [← length_of_resolve resolved] at within
  unfold evaluate
  rw [resolved]
  exact f.root.calculated_evaluate within

end Formula

def Source.Within (count : Nat) : Source → Prop
  | .slot index => index < count
  | .constant _ => True

theorem Source.within_term {count : Nat} {source : Source} (within : source.Within count) :
    source.term.Within count := by
  cases source with
  | slot index => exact within
  | constant value => trivial

namespace Term

mutual

theorem supply_within {table : List Source} {count : Nat}
    (sources : ∀ source ∈ table, source.Within count) (t : Term)
    (within : t.Within table.length) : (t.supply table).Within count := by
  match t with
  | .chain head tail =>
    rw [supply_chain]
    exact ⟨supply_within sources head within.1, supplyTail_within sources tail within.2⟩
  | .neg operand => exact supply_within sources operand within
  | .call function argument => exact supply_within sources argument within
  | .log base value =>
    exact ⟨supply_within sources base within.1, supply_within sources value within.2⟩
  | .literal value => trivial
  | .slot index =>
    have inside : index < table.length := within
    simp only [supply, List.getElem?_eq_getElem inside]
    exact Source.within_term (sources table[index] (List.getElem_mem inside))

theorem supplyTail_within {table : List Source} {count : Nat}
    (sources : ∀ source ∈ table, source.Within count) (tail : List (Operator × Term))
    (within : TailWithin table.length tail) :
    TailWithin count (tail.map fun (op, operand) => (op, operand.supply table)) := by
  match tail with
  | [] => trivial
  | (op, operand) :: rest =>
    exact ⟨supply_within sources operand within.1, supplyTail_within sources rest within.2⟩

end

end Term

namespace Curve

theorem bind_of_ofFormula {f : Formula} {c : Curve} (built : ofFormula f = .ok c) :
    f.bind source? = .ok c.body := by
  obtain ⟨body, bound, made⟩ := ok_of_bind built
  cases made
  exact bound

theorem source?_cases {name : String} {source : Source} (known : source? name = some source) :
    source = .slot 0 ∨ source = .constant euler := by
  unfold source? at known
  split at known
  next => exact .inl (Option.some.inj known).symm
  next =>
    split at known
    next => exact .inr (Option.some.inj known).symm
    next => cases known

theorem source?_within {name : String} {source : Source} (known : source? name = some source) :
    source.Within 1 := by
  obtain rfl | rfl := source?_cases known
  · exact Nat.zero_lt_one
  · trivial

theorem within_of_ofFormula {f : Formula} {c : Curve} (within : f.root.Within f.names.length)
    (built : ofFormula f = .ok c) : c.body.Within 1 := by
  obtain ⟨table, resolved, body⟩ := Formula.eq_supply_of_bind (bind_of_ofFormula built)
  rw [← Formula.length_of_resolve resolved] at within
  rw [body]
  refine Term.supply_within ?_ f.root within
  intro source member
  obtain ⟨name, -, known⟩ := Formula.exists_name_of_resolve resolved member
  exact source?_within known

theorem within_of_ofText {s : String} {c : Curve} (built : ofText s = .ok c) :
    c.body.Within 1 := by
  obtain ⟨f, accepted, made⟩ := ok_of_bind built
  exact within_of_ofFormula (Formula.within_of_parse accepted) made

theorem calculated_value {c : Curve} (within : c.body.Within 1) (x : Float) :
    Calculated (c.value x) := by
  have supplied : c.body.Within [x].length := within
  exact c.body.calculated_evaluate supplied

end Curve

end FormulaNumerics
