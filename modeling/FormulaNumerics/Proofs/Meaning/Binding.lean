import FormulaNumerics.Proofs.Meaning.Faults
import FormulaNumerics.Proofs.Meaning.Variables

set_option autoImplicit false

namespace FormulaNumerics

namespace Term

mutual

-- The second tree is the first one but for its slots: what stands for a slot satisfies `leaf`.
def Replaces (leaf : Nat → Term → Prop) : Term → Term → Prop
  | .chain head tail, .chain head' tail' =>
    head.Replaces leaf head' ∧ TailReplaces leaf tail tail'
  | .neg operand, .neg operand' => operand.Replaces leaf operand'
  | .call function argument, .call function' argument' =>
    function = function' ∧ argument.Replaces leaf argument'
  | .log base value, .log base' value' => base.Replaces leaf base' ∧ value.Replaces leaf value'
  | .literal value, .literal value' => value = value'
  | .slot index, replaced => leaf index replaced
  | _, _ => False

def TailReplaces (leaf : Nat → Term → Prop) :
    List (Operator × Term) → List (Operator × Term) → Prop
  | [], [] => True
  | (op, operand) :: rest, (op', operand') :: rest' =>
    op = op' ∧ operand.Replaces leaf operand' ∧ TailReplaces leaf rest rest'
  | _, _ => False

end

mutual

theorem replaces_supply {table : List Source} {leaf : Nat → Term → Prop}
    (sources : ∀ (index : Nat) (inside : index < table.length), leaf index table[index].term)
    (t : Term) (within : t.Within table.length) : t.Replaces leaf (t.supply table) := by
  match t with
  | .chain head tail =>
    rw [supply_chain]
    exact ⟨replaces_supply sources head within.1, tailReplaces_supply sources tail within.2⟩
  | .neg operand => exact replaces_supply sources operand within
  | .call function argument => exact ⟨rfl, replaces_supply sources argument within⟩
  | .log base value =>
    exact ⟨replaces_supply sources base within.1, replaces_supply sources value within.2⟩
  | .literal value => exact rfl
  | .slot index =>
    have inside : index < table.length := within
    simpa only [supply, List.getElem?_eq_getElem inside, Replaces] using sources index inside

theorem tailReplaces_supply {table : List Source} {leaf : Nat → Term → Prop}
    (sources : ∀ (index : Nat) (inside : index < table.length), leaf index table[index].term)
    (tail : List (Operator × Term)) (within : TailWithin table.length tail) :
    TailReplaces leaf tail (tail.map fun (op, operand) => (op, operand.supply table)) := by
  match tail with
  | [] => trivial
  | (op, operand) :: rest =>
    exact ⟨rfl, replaces_supply sources operand within.1,
      tailReplaces_supply sources rest within.2⟩

end

end Term

namespace Formula

def Stands (f : Formula) (answer : String → Option Source) (index : Nat) (leaf : Term) : Prop :=
  ∃ (name : String) (source : Source),
    f.names[index]? = some name ∧ answer name = some source ∧ leaf = source.term

section

variable {f : Formula} {answer : String → Option Source}

theorem bind_eq_error_iff (fault : Fault Float) : f.bind answer = .error fault ↔
    ∃ name : String, fault = .undefinedName name ∧
      f.names.find? (fun name => (answer name).isNone) = some name := by
  unfold bind
  cases first : f.names.find? fun name => (answer name).isNone with
  | some name =>
    rw [resolve_of_undefined first]
    constructor
    · intro failed
      cases failed
      exact ⟨name, rfl, rfl⟩
    · rintro ⟨name', rfl, same⟩
      cases same
      rfl
  | none =>
    obtain ⟨table, resolved⟩ := exists_resolve_of_find? first
    rw [resolved]
    constructor
    · intro failed
      cases failed
    · rintro ⟨name, -, found⟩
      cases found

theorem exists_bind_error_iff : (∃ fault : Fault Float, f.bind answer = .error fault) ↔
    ∃ name ∈ f.names, answer name = none := by
  simp only [bind_eq_error_iff]
  constructor
  · rintro ⟨-, name, -, found⟩
    exact ⟨name, List.mem_of_find?_eq_some found, by simpa using List.find?_some found⟩
  · rintro ⟨name, member, missing⟩
    have present : (f.names.find? fun name => (answer name).isNone).isSome = true := by
      rw [List.find?_isSome]
      exact ⟨name, member, by simp [missing]⟩
    obtain ⟨name', found⟩ := Option.isSome_iff_exists.mp present
    exact ⟨_, name', rfl, found⟩

theorem stands_of_resolve {table : List Source} (resolved : resolve answer f.names = .ok table)
    (index : Nat) (inside : index < table.length) : f.Stands answer index table[index].term := by
  have entry := congrArg (fun entries => entries[index]?)
    ((resolve_eq_ok_iff answer f.names table).mp resolved)
  simp only [List.getElem?_map, List.getElem?_eq_getElem inside, Option.map_some] at entry
  obtain ⟨name, named, answered⟩ := Option.map_eq_some_iff.mp entry
  exact ⟨name, table[index], named, answered, rfl⟩

theorem value_of_enough {slots : List Float}
    (answered : ∀ name ∈ f.names, (answer name).isSome = true)
    (enough : ∀ name ∈ f.names, ∀ index : Nat, answer name = some (.slot index) →
      index < slots.length) :
    ∀ name ∈ f.names, ((answer name).bind (Source.value? slots)).isSome = true := by
  intro name member
  obtain ⟨source, known⟩ := Option.isSome_iff_exists.mp (answered name member)
  rw [known]
  cases source with
  | slot index => simp [Source.value?, enough name member index known]
  | constant value => rfl

theorem exists_values {table : List Source} (resolved : resolve answer f.names = .ok table)
    {slots : List Float}
    (enough : ∀ name ∈ f.names, ∀ index : Nat, answer name = some (.slot index) →
      index < slots.length) :
    ∃ values : List Float,
      f.names.map (fun name => (answer name).bind (Source.value? slots)) = values.map some ∧
      table.map (Source.value? slots) = values.map some := by
  have answered := (exists_resolve_iff answer f.names).mp ⟨table, resolved⟩
  obtain ⟨values, valued⟩ := resolve_of_defined (value_of_enough answered enough)
  have points := (resolve_eq_ok_iff _ _ _).mp valued
  exact ⟨values, points, (map_value?_of_resolve resolved slots).trans points⟩

theorem evaluate_bind {t : Term} (within : f.root.Within f.names.length)
    (bound : f.bind answer = .ok t) {slots : List Float}
    (enough : ∀ name ∈ f.names, ∀ index : Nat, answer name = some (.slot index) →
      index < slots.length) :
    ∃ values : List Float,
      f.names.map (fun name => (answer name).bind (Source.value? slots)) = values.map some ∧
      t.evaluate slots = f.root.evaluate values ∧ Calculated (t.evaluate slots) := by
  obtain ⟨table, resolved, rfl⟩ := eq_supply_of_bind bound
  obtain ⟨values, points, given⟩ := exists_values resolved enough
  have inTable : f.root.Within table.length := by rwa [length_of_resolve resolved]
  have inValues : f.root.Within values.length := by
    have length := congrArg List.length given
    simp only [List.length_map] at length
    rwa [← length]
  have same := Term.evaluate_supply given f.root inTable
  refine ⟨values, points, same, ?_⟩
  rw [same]
  exact f.root.calculated_evaluate inValues

theorem evaluate_bind_of_constants {t : Term} (within : f.root.Within f.names.length)
    (bound : f.bind answer = .ok t)
    (constants : ∀ name ∈ f.names, ∃ value : Float, answer name = some (.constant value))
    (slots slots' : List Float) : t.evaluate slots = t.evaluate slots' := by
  have enough (slots : List Float) : ∀ name ∈ f.names, ∀ index : Nat,
      answer name = some (.slot index) → index < slots.length := by
    intro name member index isSlot
    obtain ⟨value, isConstant⟩ := constants name member
    rw [isSlot] at isConstant
    cases isConstant
  obtain ⟨values, points, same, -⟩ := evaluate_bind within bound (enough slots)
  obtain ⟨values', points', same', -⟩ := evaluate_bind within bound (enough slots')
  have unread : f.names.map (fun name => (answer name).bind (Source.value? slots)) =
      f.names.map fun name => (answer name).bind (Source.value? slots') := by
    refine List.map_congr_left ?_
    intro name member
    obtain ⟨value, isConstant⟩ := constants name member
    rw [isConstant]
    rfl
  have sameValues : values = values' := by
    rw [points, points'] at unread
    exact List.map_injective_iff.mpr (fun _ _ => Option.some.inj) unread
  rw [same, same', sameValues]

end

theorem bind_substitutes {s : String} {f : Formula} (accepted : parse s = .ok f)
    (answer : String → Option Source) :
    (∀ fault : Fault Float, f.bind answer = .error fault ↔ ∃ name : String,
      fault = .undefinedName name ∧ (Text.variablesIn (Text.strip s.toList)).find?
        (fun name => (answer name).isNone) = some name) ∧
    ((∃ fault : Fault Float, f.bind answer = .error fault) ↔
      ∃ name ∈ f.names, answer name = none) ∧
    ∀ t : Term, f.bind answer = .ok t →
      f.root.Replaces (f.Stands answer) t ∧
      (∀ slots : List Float, (∀ name ∈ f.names, ∀ index : Nat,
          answer name = some (.slot index) → index < slots.length) →
        ∃ values : List Float,
          f.names.map (fun name => (answer name).bind (Source.value? slots)) = values.map some ∧
          t.evaluate slots = f.root.evaluate values ∧ Calculated (t.evaluate slots)) ∧
      ((∀ name ∈ f.names, ∃ value : Float, answer name = some (.constant value)) →
        ∀ slots slots' : List Float, t.evaluate slots = t.evaluate slots') := by
  have within := within_of_parse accepted
  refine ⟨?_, exists_bind_error_iff, ?_⟩
  · intro fault
    rw [bind_eq_error_iff, find?_names accepted]
  · intro t bound
    refine ⟨?_, fun slots => evaluate_bind within bound, evaluate_bind_of_constants within bound⟩
    obtain ⟨table, resolved, rfl⟩ := eq_supply_of_bind bound
    rw [← length_of_resolve resolved] at within
    exact f.root.replaces_supply (stands_of_resolve resolved) within

-- Two names share a slot, which is the place that the third has in the formula.
theorem bind_shared_slot :
    let answer (name : String) : Option Source :=
      if name = "t" then some (.constant 10) else some (.slot 1)
    ∃ (f : Formula) (t : Term), parse "k * t + k / u" = .ok f ∧ f.bind answer = .ok t ∧
      t.evaluate [3, 5] = f.root.evaluate [5, 10, 5] := by
  intro answer
  obtain ⟨f, accepted, names⟩ :
      ∃ f : Formula, parse "k * t + k / u" = .ok f ∧ f.names = ["k", "t", "u"] :=
    ⟨_, rfl, rfl⟩
  obtain ⟨-, failure, result⟩ := bind_substitutes accepted answer
  have answered (name : String) :
      answer name = some (.constant 10) ∨ answer name = some (.slot 1) := by
    by_cases isTime : name = "t"
    · exact .inl (if_pos isTime)
    · exact .inr (if_neg isTime)
  cases bound : f.bind answer with
  | error fault =>
    obtain ⟨name, -, missing⟩ := failure.mp ⟨fault, bound⟩
    obtain known | known := answered name <;> simp [missing] at known
  | ok t =>
    obtain ⟨-, evaluated, -⟩ := result t bound
    have enough : ∀ name ∈ f.names, ∀ index : Nat, answer name = some (.slot index) →
        index < [(3 : Float), 5].length := by
      intro name _ index isSlot
      obtain known | known := answered name
      · simp [known] at isSlot
      · simp [known] at isSlot
        simp [← isSlot]
    obtain ⟨values, points, same, -⟩ := evaluated [3, 5] enough
    rw [names] at points
    have given : [(5 : Float), 10, 5].map some = values.map some := points
    rw [← List.map_injective_iff.mpr (fun _ _ => Option.some.inj) given] at same
    exact ⟨f, t, accepted, bound, same⟩

end Formula

end FormulaNumerics
