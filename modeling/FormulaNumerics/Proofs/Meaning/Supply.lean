import FormulaNumerics.Proofs.Meaning.Evaluation

set_option autoImplicit false

namespace FormulaNumerics

def Source.value? (slots : List Float) : Source → Option Float
  | .slot index => slots[index]?
  | .constant value => some value

namespace Term

mutual

def Within (count : Nat) : Term → Prop
  | .chain head tail => head.Within count ∧ TailWithin count tail
  | .neg operand => operand.Within count
  | .call _ argument => argument.Within count
  | .log base value => base.Within count ∧ value.Within count
  | .literal _ => True
  | .slot index => index < count

def TailWithin (count : Nat) : List (Operator × Term) → Prop
  | [] => True
  | (_, operand) :: rest => operand.Within count ∧ TailWithin count rest

end

theorem tailWithin_append (count : Nat) (left right : List (Operator × Term)) :
    TailWithin count (left ++ right) ↔ TailWithin count left ∧ TailWithin count right := by
  induction left with
  | nil => simp [TailWithin]
  | cons entry left ih => simp [TailWithin, ih, and_assoc]

theorem opened_within {count : Nat} (level : Level) {t : Term} (within : t.Within count) :
    (t.opened level).1.Within count ∧ TailWithin count (t.opened level).2 := by
  obtain alone | ⟨head, tail, rfl, -, spliced⟩ := opened_cases level t
  · rw [alone]
    exact ⟨within, trivial⟩
  · rw [spliced]
    exact within

theorem extend_within {count : Nat} {t operand : Term} (op : Operator) (within : t.Within count)
    (operandWithin : operand.Within count) : (t.extend [(op, operand)]).Within count := by
  obtain ⟨headWithin, tailWithin⟩ := opened_within op.level within
  exact ⟨headWithin, (tailWithin_append count _ _).mpr ⟨tailWithin, operandWithin, trivial⟩⟩

section

variable {table : List Source} {slots values : List Float}

theorem evaluate_source (given : table.map (Source.value? slots) = values.map some) {index : Nat}
    (inside : index < table.length) :
    (supply table (.slot index)).evaluate slots = evaluate values (.slot index) := by
  have entry := congrArg (fun entries => entries[index]?) given
  simp only [List.getElem?_map, List.getElem?_eq_getElem inside, Option.map_some] at entry
  cases known : values[index]? with
  | none => simp [known] at entry
  | some value =>
    rw [known, Option.map_some, Option.some.injEq] at entry
    simp only [supply, List.getElem?_eq_getElem inside, Term.evaluate, known]
    cases source : table[index] with
    | slot slot =>
      rw [source, Source.value?] at entry
      simp only [Source.term, Term.evaluate, entry]
    | constant constant =>
      rw [source, Source.value?, Option.some.injEq] at entry
      simp only [Source.term, Term.evaluate, entry]

mutual

theorem evaluate_supply (given : table.map (Source.value? slots) = values.map some) (t : Term)
    (within : t.Within table.length) :
    (t.supply table).evaluate slots = t.evaluate values := by
  match t with
  | .chain head tail =>
    rw [supply_chain, Term.evaluate, Term.evaluate, evaluate_supply given head within.1]
    cases head.evaluate values with
    | error fault => rfl
    | ok value => exact evaluateTail_supply given tail within.2 value
  | .neg operand => rw [supply, Term.evaluate, Term.evaluate, evaluate_supply given operand within]
  | .call function argument =>
    rw [supply, Term.evaluate, Term.evaluate, evaluate_supply given argument within]
  | .log base value =>
    rw [supply, Term.evaluate, Term.evaluate, evaluate_supply given base within.1,
      evaluate_supply given value within.2]
  | .literal value => rfl
  | .slot index => exact evaluate_source given within

theorem evaluateTail_supply (given : table.map (Source.value? slots) = values.map some)
    (tail : List (Operator × Term)) (within : TailWithin table.length tail) (value : Float) :
    evaluateTail slots value (tail.map fun (op, operand) => (op, operand.supply table)) =
      evaluateTail values value tail := by
  match tail with
  | [] => rfl
  | (op, operand) :: rest =>
    simp only [List.map_cons, evaluateTail, evaluate_supply given operand within.1]
    cases operand.evaluate values with
    | error fault => rfl
    | ok right =>
      change (op.apply value right).bind _ = (op.apply value right).bind _
      cases op.apply value right with
      | error fault => rfl
      | ok next => exact evaluateTail_supply given rest within.2 next

end

end

end Term

theorem Syntax.Derivation.within_tree {l : Layer} (d : Derivation l) {names : List String}
    (listed : ∀ name ∈ d.names, name ∈ names) : (d.tree names).Within names.length := by
  induction d with
  | single operand ih => exact ih listed
  | more run op atLevel operand runWithin operandWithin =>
    exact Term.extend_within op
      (runWithin fun name member => listed name (List.mem_append_left _ member))
      (operandWithin fun name member => listed name (List.mem_append_right _ member))
  | plain primary ih => exact ih listed
  | negated primary ih => exact ih listed
  | number literal wf => trivial
  | name letters wf =>
    exact List.idxOf_lt_length_of_mem (listed _ (by simp [Derivation.names]))
  | group inner ih => exact ih listed
  | call function argument ih => exact ih listed
  | log base value baseWithin valueWithin =>
    exact ⟨baseWithin fun name member => listed name (List.mem_append_left _ member),
      valueWithin fun name member => listed name (List.mem_append_right _ member)⟩

theorem Formula.eq_supply_of_bind {f : Formula} {answer : String → Option Source} {t : Term}
    (bound : f.bind answer = .ok t) :
    ∃ table : List Source, resolve answer f.names = .ok table ∧ t = f.root.supply table := by
  obtain ⟨table, resolved, supplied⟩ := ok_of_bind bound
  exact ⟨table, resolved, (Except.ok.inj supplied).symm⟩

theorem Formula.map_value?_of_resolve {answer : String → Option Source} {names : List String}
    {table : List Source} (resolved : resolve answer names = .ok table) (slots : List Float) :
    table.map (Source.value? slots) =
      names.map fun name => (answer name).bind (Source.value? slots) := by
  calc
    table.map (Source.value? slots)
        = (table.map some).map fun source => source.bind (Source.value? slots) := by
      rw [List.map_map]
      rfl
    _ = names.map fun name => (answer name).bind (Source.value? slots) := by
      rw [← (resolve_eq_ok_iff answer names table).mp resolved, List.map_map]
      rfl

theorem Formula.within_of_parse {s : String} {f : Formula} (accepted : Formula.parse s = .ok f) :
    f.root.Within f.names.length := by
  obtain ⟨d, -, rfl⟩ := Formula.exists_derivation accepted
  change (d.phrase.tree d.phrase.names).Within d.phrase.names.length
  rw [Syntax.Derivation.tree_phrase]
  refine d.within_tree ?_
  intro name member
  rwa [Syntax.Phrase.mem_names, Syntax.Derivation.occurrences_phrase]

end FormulaNumerics
