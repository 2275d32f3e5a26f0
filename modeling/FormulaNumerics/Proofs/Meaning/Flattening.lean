import FormulaNumerics.Proofs.Meaning.Supply

set_option autoImplicit false

namespace FormulaNumerics

namespace Term

def level? : Term → Option Level
  | .chain _ ((op, _) :: _) => some op.level
  | _ => none

mutual

-- Every chain has operators, all of one level, and begins with no chain of that level.
def Flat : Term → Prop
  | .chain head tail => head.Flat ∧ TailFlat tail ∧ tail ≠ [] ∧
    ∃ level : Level, (∀ entry ∈ tail, entry.1.level = level) ∧ head.level? ≠ some level
  | .neg operand => operand.Flat
  | .call _ argument => argument.Flat
  | .log base value => base.Flat ∧ value.Flat
  | .literal _ => True
  | .slot _ => True

def TailFlat : List (Operator × Term) → Prop
  | [] => True
  | (_, operand) :: rest => operand.Flat ∧ TailFlat rest

end

theorem tailFlat_append (left right : List (Operator × Term)) :
    TailFlat (left ++ right) ↔ TailFlat left ∧ TailFlat right := by
  induction left with
  | nil => simp [TailFlat]
  | cons entry left ih => simp [TailFlat, ih, and_assoc]

theorem level?_chain {level : Level} (head : Term) {tail : List (Operator × Term)}
    (nonempty : tail ≠ []) (atLevel : ∀ entry ∈ tail, entry.1.level = level) :
    (chain head tail).level? = some level := by
  obtain ⟨entry, rest, rfl⟩ := List.exists_cons_of_ne_nil nonempty
  exact congrArg some (atLevel entry (by simp))

theorem opened_of_level?_ne {level : Level} {t : Term} (apart : t.level? ≠ some level) :
    t.opened level = (t, []) := by
  unfold opened
  split
  next head op operand rest =>
    rw [if_neg]
    rintro rfl
    exact apart rfl
  next => rfl

theorem opened_chain {level : Level} {head : Term} {tail : List (Operator × Term)}
    (same : (chain head tail).level? = some level) :
    (chain head tail).opened level = (head, tail) := by
  cases tail with
  | nil => cases same
  | cons entry rest => exact if_pos (Option.some.inj same)

theorem extend_eq_chain {level : Level} (first : Term) {run : List (Operator × Term)}
    (nonempty : run ≠ []) (atLevel : ∀ entry ∈ run, entry.1.level = level) :
    first.extend run = .chain (first.opened level).1 ((first.opened level).2 ++ run) := by
  obtain ⟨entry, rest, rfl⟩ := List.exists_cons_of_ne_nil nonempty
  obtain rfl := atLevel entry (by simp)
  rfl

end Term

namespace Syntax

mutual

-- A single operand and a pair of parentheses add no node.
inductive Flattens (names : List String) : {l : Layer} → Derivation l → Term → Prop where
  | single {level : Level} {operand : Derivation (.below level)} {t : Term}
      (flattens : Flattens names operand t) : Flattens names (.single operand) t
  | chained {level : Level} {run : Derivation (.run level)} {first : Term}
      {later : List (Operator × Term)} (operands : Operands names run first later)
      (several : later ≠ []) (apart : first.level? ≠ some level) :
      Flattens names run (.chain first later)
  | continued {level : Level} {run : Derivation (.run level)} {head : Term}
      {tail later : List (Operator × Term)}
      (operands : Operands names run (.chain head tail) later) (several : later ≠ [])
      (same : (Term.chain head tail).level? = some level) :
      Flattens names run (.chain head (tail ++ later))
  | plain {primary : Derivation .primary} {t : Term} (flattens : Flattens names primary t) :
      Flattens names (.plain primary) t
  | negated {primary : Derivation .primary} {t : Term} (flattens : Flattens names primary t) :
      Flattens names (.negated primary) (.neg t)
  | number (literal : Literal) (wf : literal.WellFormed) :
      Flattens names (.number literal wf) (.literal literal.value)
  | name (letters : List Char) (wf : IsName letters) :
      Flattens names (.name letters wf) (.slot (names.idxOf (String.ofList letters)))
  | group {inner : Derivation (.run .sum)} {t : Term} (flattens : Flattens names inner t) :
      Flattens names (.group inner) t
  | call (function : NamedFunction) {argument : Derivation (.run .sum)} {t : Term}
      (flattens : Flattens names argument t) :
      Flattens names (.call function argument) (.call function t)
  | log {base value : Derivation (.run .sum)} {b v : Term} (ofBase : Flattens names base b)
      (ofValue : Flattens names value v) : Flattens names (.log base value) (.log b v)

inductive Operands (names : List String) :
    {level : Level} → Derivation (.run level) → Term → List (Operator × Term) → Prop where
  | single {level : Level} {operand : Derivation (.below level)} {first : Term}
      (flattens : Flattens names operand first) : Operands names (.single operand) first []
  | more {level : Level} {run : Derivation (.run level)} {operand : Derivation (.below level)}
      {first t : Term} {later : List (Operator × Term)} (op : Operator)
      (atLevel : op.level = level) (before : Operands names run first later)
      (flattens : Flattens names operand t) :
      Operands names (.more run op atLevel operand) first (later ++ [(op, t)])

end

section

variable {names : List String}

theorem Operands.atLevel {level : Level} {run : Derivation (.run level)} {first : Term}
    {later : List (Operator × Term)} (operands : Operands names run first later) :
    ∀ entry ∈ later, entry.1.level = level := by
  match operands with
  | .single _ => simp
  | .more op here before _ =>
    intro entry member
    obtain earlier | last := List.mem_append.mp member
    · exact before.atLevel entry earlier
    · obtain rfl := List.mem_singleton.mp last
      exact here

mutual

theorem Flattens.tree_eq {l : Layer} {d : Derivation l} {t : Term} (h : Flattens names d t) :
    d.tree names = t := by
  match h with
  | .single flattens =>
    have operand := flattens.tree_eq
    exact operand
  | .chained operands several apart =>
    rw [operands.tree_eq, Term.extend_eq_chain _ several operands.atLevel,
      Term.opened_of_level?_ne apart]
    rfl
  | .continued operands several same =>
    rw [operands.tree_eq, Term.extend_eq_chain _ several operands.atLevel, Term.opened_chain same]
  | .plain flattens =>
    have primary := flattens.tree_eq
    exact primary
  | .negated flattens => exact congrArg Term.neg flattens.tree_eq
  | .number literal wf => rfl
  | .name letters wf => rfl
  | .group flattens =>
    have inner := flattens.tree_eq
    exact inner
  | .call function flattens => exact congrArg (Term.call function) flattens.tree_eq
  | .log ofBase ofValue => exact congrArg₂ Term.log ofBase.tree_eq ofValue.tree_eq

theorem Operands.tree_eq {level : Level} {run : Derivation (.run level)} {first : Term}
    {later : List (Operator × Term)} (h : Operands names run first later) :
    run.tree names = first.extend later := by
  match h with
  | .single flattens =>
    have operand := flattens.tree_eq
    exact operand
  | .more op here before flattens =>
    rw [Derivation.tree, before.tree_eq, flattens.tree_eq,
      Term.extend_extend _ _ _ before.atLevel here]

end

theorem Flattens.operands {level : Level} {run : Derivation (.run level)} {t : Term}
    (h : Flattens names run t) :
    ∃ (first : Term) (later : List (Operator × Term)), Operands names run first later := by
  cases h with
  | single flattens => exact ⟨_, _, .single flattens⟩
  | chained operands several apart => exact ⟨_, _, operands⟩
  | continued operands several same => exact ⟨_, _, operands⟩

theorem Operands.flattens {level : Level} {run : Derivation (.run level)} {first : Term}
    {later : List (Operator × Term)} (operands : Operands names run first later)
    (several : later ≠ []) : ∃ t : Term, Flattens names run t := by
  by_cases same : first.level? = some level
  · cases first with
    | chain head tail => exact ⟨_, .continued operands several same⟩
    | _ => cases same
  · exact ⟨_, .chained operands several same⟩

theorem Derivation.exists_flattens (names : List String) {l : Layer} (d : Derivation l) :
    ∃ t : Term, Flattens names d t := by
  induction d with
  | single operand ih =>
    obtain ⟨t, flattens⟩ := ih
    exact ⟨t, .single flattens⟩
  | more run op atLevel operand ofRun ofOperand =>
    obtain ⟨_, runFlattens⟩ := ofRun
    obtain ⟨t, flattens⟩ := ofOperand
    obtain ⟨first, later, operands⟩ := runFlattens.operands
    exact (Operands.more op atLevel operands flattens).flattens (by simp)
  | plain primary ih =>
    obtain ⟨t, flattens⟩ := ih
    exact ⟨t, .plain flattens⟩
  | negated primary ih =>
    obtain ⟨t, flattens⟩ := ih
    exact ⟨.neg t, .negated flattens⟩
  | number literal wf => exact ⟨_, .number literal wf⟩
  | name letters wf => exact ⟨_, .name letters wf⟩
  | group inner ih =>
    obtain ⟨t, flattens⟩ := ih
    exact ⟨t, .group flattens⟩
  | call function argument ih =>
    obtain ⟨t, flattens⟩ := ih
    exact ⟨.call function t, .call function flattens⟩
  | log base value ofBase ofValue =>
    obtain ⟨b, baseFlattens⟩ := ofBase
    obtain ⟨v, valueFlattens⟩ := ofValue
    exact ⟨.log b v, .log baseFlattens valueFlattens⟩

theorem flattens_iff {l : Layer} (d : Derivation l) (t : Term) :
    Flattens names d t ↔ t = d.tree names := by
  constructor
  · exact fun flattens => flattens.tree_eq.symm
  · rintro rfl
    obtain ⟨t, flattens⟩ := d.exists_flattens names
    exact flattens.tree_eq.symm ▸ flattens

mutual

theorem Flattens.flat {l : Layer} {d : Derivation l} {t : Term} (h : Flattens names d t) :
    t.Flat := by
  match h with
  | .single flattens => exact flattens.flat
  | .chained operands several apart =>
    exact ⟨operands.flat.1, operands.flat.2, several, _, operands.atLevel, apart⟩
  | .continued operands several same =>
    obtain ⟨⟨headFlat, tailFlat, nonempty, level', atLevel, apart⟩, laterFlat⟩ := operands.flat
    -- The chain at the front is of the level of the run.
    rw [Term.level?_chain _ nonempty atLevel, Option.some.injEq] at same
    subst same
    refine ⟨headFlat, (Term.tailFlat_append _ _).mpr ⟨tailFlat, laterFlat⟩, ?_, level', ?_, apart⟩
    · exact fun empty => nonempty (List.append_eq_nil_iff.mp empty).1
    · intro entry member
      obtain inTail | inLater := List.mem_append.mp member
      · exact atLevel entry inTail
      · exact operands.atLevel entry inLater
  | .plain flattens => exact flattens.flat
  | .negated flattens => exact flattens.flat
  | .number literal wf => trivial
  | .name letters wf => trivial
  | .group flattens => exact flattens.flat
  | .call function flattens => exact flattens.flat
  | .log ofBase ofValue => exact ⟨ofBase.flat, ofValue.flat⟩

theorem Operands.flat {level : Level} {run : Derivation (.run level)} {first : Term}
    {later : List (Operator × Term)} (h : Operands names run first later) :
    first.Flat ∧ Term.TailFlat later := by
  match h with
  | .single flattens => exact ⟨flattens.flat, trivial⟩
  | .more op here before flattens =>
    obtain ⟨firstFlat, laterFlat⟩ := before.flat
    exact ⟨firstFlat, (Term.tailFlat_append _ _).mpr ⟨laterFlat, flattens.flat, trivial⟩⟩

end

end

end Syntax

namespace Term

theorem level?_supply (table : List Source) (t : Term) :
    (t.supply table).level? = t.level? := by
  cases t with
  | chain head tail =>
    rw [supply_chain]
    cases tail <;> rfl
  | slot index =>
    simp only [supply]
    cases table[index]? with
    | none => rfl
    | some source => cases source <;> rfl
  | _ => rfl

mutual

theorem flat_supply (table : List Source) (t : Term) (flat : t.Flat) :
    (t.supply table).Flat := by
  match t with
  | .chain head tail =>
    obtain ⟨headFlat, tailFlat, nonempty, level, atLevel, apart⟩ := flat
    rw [supply_chain]
    refine ⟨flat_supply table head headFlat, tailFlat_supply table tail tailFlat, ?_, level, ?_, ?_⟩
    · exact mt List.map_eq_nil_iff.mp nonempty
    · intro entry member
      obtain ⟨old, inTail, rfl⟩ := List.mem_map.mp member
      exact atLevel old inTail
    · rwa [level?_supply]
  | .neg operand => exact flat_supply table operand flat
  | .call function argument => exact flat_supply table argument flat
  | .log base value => exact ⟨flat_supply table base flat.1, flat_supply table value flat.2⟩
  | .literal value => trivial
  | .slot index =>
    simp only [supply]
    cases table[index]? with
    | none => trivial
    | some source => cases source <;> trivial

theorem tailFlat_supply (table : List Source) (tail : List (Operator × Term))
    (flat : TailFlat tail) :
    TailFlat (tail.map fun (op, operand) => (op, operand.supply table)) := by
  match tail with
  | [] => trivial
  | (op, operand) :: rest =>
    exact ⟨flat_supply table operand flat.1, tailFlat_supply table rest flat.2⟩

end

end Term

namespace Formula

open Syntax

theorem root_flattens {s : String} {f : Formula} (accepted : parse s = .ok f) :
    (∃ d : Derivation (.run .sum), d.text = Text.strip s.toList) ∧
    (∀ d : Derivation (.run .sum), d.text = Text.strip s.toList →
      ∀ t : Term, Flattens f.names d t ↔ t = f.root) ∧
    f.root.Flat ∧
    ∀ (answer : String → Option Source) (t : Term), f.bind answer = .ok t → t.Flat := by
  have root_eq (d : Derivation (.run .sum)) (derives : d.text = Text.strip s.toList) :
      f.root = d.tree f.names := by
    obtain rfl := parse_eq_ofPhrase accepted d derives
    exact d.tree_phrase _
  obtain ⟨d, derives, -⟩ := exists_derivation accepted
  have flat : f.root.Flat := ((flattens_iff d f.root).mpr (root_eq d derives)).flat
  refine ⟨⟨d, derives⟩, ?_, flat, ?_⟩
  · intro d derives t
    rw [root_eq d derives, flattens_iff]
  · intro answer t bound
    obtain ⟨table, -, rfl⟩ := eq_supply_of_bind bound
    exact Term.flat_supply table f.root flat

theorem root_of_grouped_differences :
    ∃ f : Formula, parse "(a - b) - c - (d - e)" = .ok f ∧
      f.root = .chain (.slot 0) [(.subtract, .slot 1), (.subtract, .slot 2),
        (.subtract, .chain (.slot 3) [(.subtract, .slot 4)])] ∧
      f.root.Flat ∧ ∃ d : Derivation (.run .sum),
        d.text = "(a-b)-c-(d-e)".toList ∧ Flattens f.names d f.root := by
  let operand (p : Derivation .primary) : Derivation (.run .product) :=
    .single (.single (.plain p))
  let a := operand (.name ['a'] (isName_of_all (by decide) (by decide)))
  let b := operand (.name ['b'] (isName_of_all (by decide) (by decide)))
  let c := operand (.name ['c'] (isName_of_all (by decide) (by decide)))
  let d := operand (.name ['d'] (isName_of_all (by decide) (by decide)))
  let e := operand (.name ['e'] (isName_of_all (by decide) (by decide)))
  let front := operand (.group (.more (.single a) .subtract rfl b))
  let back := operand (.group (.more (.single d) .subtract rfl e))
  obtain ⟨f, accepted, root⟩ : ∃ f : Formula, parse "(a - b) - c - (d - e)" = .ok f ∧
      f.root = .chain (.slot 0) [(.subtract, .slot 1), (.subtract, .slot 2),
        (.subtract, .chain (.slot 3) [(.subtract, .slot 4)])] :=
    ⟨_, rfl, rfl⟩
  obtain ⟨-, flattens, flat, -⟩ := root_flattens accepted
  refine ⟨f, accepted, root, flat, .more (.more (.single front) .subtract rfl c) .subtract rfl back,
    rfl, ?_⟩
  exact (flattens _ rfl f.root).mpr rfl

end Formula

end FormulaNumerics
