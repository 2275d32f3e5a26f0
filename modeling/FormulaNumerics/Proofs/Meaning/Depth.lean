import FormulaNumerics.Proofs.Meaning.Flattening

set_option autoImplicit false

namespace FormulaNumerics

namespace Term

def children : Term → List Term
  | .chain head tail => head :: tail.map (·.2)
  | .neg operand => [operand]
  | .call _ argument => [argument]
  | .log base value => [base, value]
  | .literal _ => []
  | .slot _ => []

inductive Path : Term → List Term → Prop where
  | leaf {t : Term} (childless : t.children = []) : Path t [t]
  | step {t child : Term} {nodes : List Term} (below : child ∈ t.children)
      (rest : Path child nodes) : Path t (t :: nodes)

mutual

def depth : Term → Nat
  | .chain head tail => max head.depth (tailDepth tail) + 1
  | .neg operand => operand.depth + 1
  | .call _ argument => argument.depth + 1
  | .log base value => max base.depth value.depth + 1
  | .literal _ => 1
  | .slot _ => 1

def tailDepth : List (Operator × Term) → Nat
  | [] => 0
  | (_, operand) :: rest => max operand.depth (tailDepth rest)

end

theorem tailDepth_append (left right : List (Operator × Term)) :
    tailDepth (left ++ right) = max (tailDepth left) (tailDepth right) := by
  induction left with
  | nil => simp [tailDepth]
  | cons entry left ih => simp [tailDepth, ih, Nat.max_assoc]

theorem depth_le_tailDepth {entry : Operator × Term} {tail : List (Operator × Term)}
    (member : entry ∈ tail) : entry.2.depth ≤ tailDepth tail := by
  induction tail with
  | nil => cases member
  | cons first rest ih =>
    rw [tailDepth]
    obtain rfl | later := List.mem_cons.mp member
    · exact Nat.le_max_left _ _
    · exact Nat.le_trans (ih later) (Nat.le_max_right _ _)

theorem depth_lt_of_mem_children {t child : Term} (below : child ∈ t.children) :
    child.depth < t.depth := by
  cases t with
  | chain head tail =>
    rw [depth, Nat.lt_succ_iff]
    obtain rfl | inTail := List.mem_cons.mp below
    · exact Nat.le_max_left _ _
    · obtain ⟨entry, member, rfl⟩ := List.mem_map.mp inTail
      exact Nat.le_trans (depth_le_tailDepth member) (Nat.le_max_right _ _)
  | neg operand =>
    obtain rfl := List.mem_singleton.mp below
    exact Nat.lt_succ_self _
  | call function argument =>
    obtain rfl := List.mem_singleton.mp below
    exact Nat.lt_succ_self _
  | log base value =>
    rw [depth, Nat.lt_succ_iff]
    obtain rfl | isValue := List.mem_cons.mp below
    · exact Nat.le_max_left _ _
    · obtain rfl := List.mem_singleton.mp isValue
      exact Nat.le_max_right _ _
  | literal value => cases below
  | slot index => cases below

theorem Path.length_le_depth {t : Term} {nodes : List Term} (path : t.Path nodes) :
    nodes.length ≤ t.depth := by
  induction path with
  | @leaf t childless => cases t <;> simp [depth]
  | step below rest ih => exact Nat.lt_of_le_of_lt ih (depth_lt_of_mem_children below)

theorem exists_tailDepth_eq {tail : List (Operator × Term)} (nonempty : tail ≠ []) :
    ∃ entry ∈ tail, tailDepth tail = entry.2.depth := by
  induction tail with
  | nil => exact absurd rfl nonempty
  | cons first rest ih =>
    rw [tailDepth]
    by_cases alone : rest = []
    · subst alone
      exact ⟨first, by simp, Nat.max_zero _⟩
    · obtain ⟨entry, member, deepest⟩ := ih alone
      obtain within | beyond := Nat.le_total (tailDepth rest) first.2.depth
      · exact ⟨first, by simp, Nat.max_eq_left within⟩
      · exact ⟨entry, by simp [member], (Nat.max_eq_right beyond).trans deepest⟩

theorem exists_depth_eq {t : Term} (inner : t.children ≠ []) :
    ∃ child ∈ t.children, t.depth = child.depth + 1 := by
  cases t with
  | chain head tail =>
    obtain within | beyond := Nat.le_total (tailDepth tail) head.depth
    · exact ⟨head, by simp [children], congrArg (· + 1) (Nat.max_eq_left within)⟩
    · by_cases alone : tail = []
      · subst alone
        exact ⟨head, by simp [children], congrArg (· + 1) (Nat.max_zero _)⟩
      · obtain ⟨entry, member, deepest⟩ := exists_tailDepth_eq alone
        refine ⟨entry.2, List.mem_cons_of_mem _ (List.mem_map_of_mem member), ?_⟩
        rw [depth, Nat.max_eq_right beyond, deepest]
  | neg operand => exact ⟨operand, by simp [children], rfl⟩
  | call function argument => exact ⟨argument, by simp [children], rfl⟩
  | log base value =>
    obtain within | beyond := Nat.le_total value.depth base.depth
    · exact ⟨base, by simp [children], congrArg (· + 1) (Nat.max_eq_left within)⟩
    · exact ⟨value, by simp [children], congrArg (· + 1) (Nat.max_eq_right beyond)⟩
  | literal value => exact absurd rfl inner
  | slot index => exact absurd rfl inner

theorem exists_path_of_depth (t : Term) :
    ∃ nodes : List Term, t.Path nodes ∧ nodes.length = t.depth := by
  induction deep : t.depth using Nat.strong_induction_on generalizing t with
  | _ count ih =>
    subst deep
    by_cases childless : t.children = []
    · refine ⟨[t], .leaf childless, ?_⟩
      cases t <;> simp_all [children, depth]
    · obtain ⟨child, below, deepest⟩ := exists_depth_eq childless
      obtain ⟨nodes, path, length⟩ := ih child.depth (depth_lt_of_mem_children below) child rfl
      exact ⟨t :: nodes, .step below path, by rw [List.length_cons, length, deepest]⟩

def given {α : Type} (outcome : Except (Fault Float) α) : ExceptT (Fault Float) Option α :=
  .mk (some outcome)

theorem given_bind {α β : Type} (outcome : Except (Fault Float) α)
    {bounded : α → ExceptT (Fault Float) Option β} {next : α → Except (Fault Float) β}
    (same : ∀ value : α, bounded value = given (next value)) :
    given outcome >>= bounded = given (outcome >>= next) := by
  cases outcome with
  | error fault => rfl
  | ok value => exact same value

mutual

-- Evaluation that gives up where it would need more than `levels` calls inside one another.
def evaluateUpTo (slots : List Float) : (levels : Nat) → Term → ExceptT (Fault Float) Option Float
  | 0, _ => .mk none
  | levels + 1, .chain head tail => do
    let value ← head.evaluateUpTo slots levels
    evaluateTailUpTo slots levels value tail
  | levels + 1, .neg operand => do
    let value ← operand.evaluateUpTo slots levels
    given (.ok (-value))
  | levels + 1, .call function argument => do
    let value ← argument.evaluateUpTo slots levels
    given (function.apply value)
  | levels + 1, .log base value => do
    let b ← base.evaluateUpTo slots levels
    let v ← value.evaluateUpTo slots levels
    given (logarithm b v)
  | _ + 1, .literal value => given (.ok value)
  | _ + 1, .slot index => given (evaluate slots (.slot index))

-- The operands of a chain are evaluated one after the other, at the same level.
def evaluateTailUpTo (slots : List Float) (levels : Nat) (value : Float) :
    List (Operator × Term) → ExceptT (Fault Float) Option Float
  | [] => given (.ok value)
  | (op, operand) :: rest => do
    let right ← operand.evaluateUpTo slots levels
    let next ← given (op.apply value right)
    evaluateTailUpTo slots levels next rest

end

mutual

def supplyUpTo (table : List Source) : (levels : Nat) → Term → Option Term
  | 0, _ => none
  | levels + 1, .chain head tail => do
    let head ← head.supplyUpTo table levels
    let tail ← supplyTailUpTo table levels tail
    return .chain head tail
  | levels + 1, .neg operand => do
    let operand ← operand.supplyUpTo table levels
    return .neg operand
  | levels + 1, .call function argument => do
    let argument ← argument.supplyUpTo table levels
    return .call function argument
  | levels + 1, .log base value => do
    let base ← base.supplyUpTo table levels
    let value ← value.supplyUpTo table levels
    return .log base value
  | _ + 1, .literal value => some (.literal value)
  | _ + 1, .slot index => some (supply table (.slot index))

def supplyTailUpTo (table : List Source) (levels : Nat) :
    List (Operator × Term) → Option (List (Operator × Term))
  | [] => some []
  | (op, operand) :: rest => do
    let operand ← operand.supplyUpTo table levels
    let rest ← supplyTailUpTo table levels rest
    return (op, operand) :: rest

end

mutual

theorem evaluateUpTo_eq (slots : List Float) {levels : Nat} (t : Term)
    (shallow : t.depth ≤ levels) :
    t.evaluateUpTo slots levels = given (t.evaluate slots) := by
  match levels, t with
  | 0, t => cases t <;> simp [depth] at shallow
  | levels + 1, .chain head tail =>
    simp only [depth, Nat.add_le_add_iff_right, Nat.max_le] at shallow
    rw [evaluateUpTo, Term.evaluate, evaluateUpTo_eq slots head shallow.1]
    exact given_bind _ (evaluateTailUpTo_eq slots tail shallow.2)
  | levels + 1, .neg operand =>
    simp only [depth, Nat.add_le_add_iff_right] at shallow
    rw [evaluateUpTo, Term.evaluate, evaluateUpTo_eq slots operand shallow]
    exact given_bind _ fun value => rfl
  | levels + 1, .call function argument =>
    simp only [depth, Nat.add_le_add_iff_right] at shallow
    rw [evaluateUpTo, Term.evaluate, evaluateUpTo_eq slots argument shallow]
    exact given_bind _ fun value => rfl
  | levels + 1, .log base value =>
    simp only [depth, Nat.add_le_add_iff_right, Nat.max_le] at shallow
    rw [evaluateUpTo, Term.evaluate, evaluateUpTo_eq slots base shallow.1,
      evaluateUpTo_eq slots value shallow.2]
    exact given_bind _ fun b => given_bind _ fun v => rfl
  | levels + 1, .literal value => rfl
  | levels + 1, .slot index => rfl

theorem evaluateTailUpTo_eq (slots : List Float) {levels : Nat} (tail : List (Operator × Term))
    (shallow : tailDepth tail ≤ levels) (value : Float) :
    evaluateTailUpTo slots levels value tail = given (evaluateTail slots value tail) := by
  match tail with
  | [] => rfl
  | (op, operand) :: rest =>
    simp only [tailDepth, Nat.max_le] at shallow
    rw [evaluateTailUpTo, evaluateTail, evaluateUpTo_eq slots operand shallow.1]
    refine given_bind _ fun right => given_bind _ ?_
    exact evaluateTailUpTo_eq slots rest shallow.2

end

mutual

theorem supplyUpTo_eq (table : List Source) {levels : Nat} (t : Term)
    (shallow : t.depth ≤ levels) : t.supplyUpTo table levels = some (t.supply table) := by
  match levels, t with
  | 0, t => cases t <;> simp [depth] at shallow
  | levels + 1, .chain head tail =>
    simp only [depth, Nat.add_le_add_iff_right, Nat.max_le] at shallow
    rw [supplyUpTo, supply_chain, supplyUpTo_eq table head shallow.1,
      supplyTailUpTo_eq table tail shallow.2]
    rfl
  | levels + 1, .neg operand =>
    simp only [depth, Nat.add_le_add_iff_right] at shallow
    rw [supplyUpTo, supplyUpTo_eq table operand shallow]
    rfl
  | levels + 1, .call function argument =>
    simp only [depth, Nat.add_le_add_iff_right] at shallow
    rw [supplyUpTo, supplyUpTo_eq table argument shallow]
    rfl
  | levels + 1, .log base value =>
    simp only [depth, Nat.add_le_add_iff_right, Nat.max_le] at shallow
    rw [supplyUpTo, supplyUpTo_eq table base shallow.1, supplyUpTo_eq table value shallow.2]
    rfl
  | levels + 1, .literal value => rfl
  | levels + 1, .slot index => rfl

theorem supplyTailUpTo_eq (table : List Source) {levels : Nat} (tail : List (Operator × Term))
    (shallow : tailDepth tail ≤ levels) : supplyTailUpTo table levels tail =
      some (tail.map fun (op, operand) => (op, operand.supply table)) := by
  match tail with
  | [] => rfl
  | (op, operand) :: rest =>
    simp only [tailDepth, Nat.max_le] at shallow
    rw [supplyTailUpTo, supplyUpTo_eq table operand shallow.1,
      supplyTailUpTo_eq table rest shallow.2]
    rfl

end

structure Shallow (limit : Nat) (t : Term) : Prop where
  length_le : ∀ nodes : List Term, t.Path nodes → nodes.length ≤ limit
  evaluates : ∀ slots : List Float, t.evaluateUpTo slots limit = given (t.evaluate slots)
  supplies : ∀ table : List Source, t.supplyUpTo table limit = some (t.supply table)

theorem shallow_of_depth_le {limit : Nat} {t : Term} (shallow : t.depth ≤ limit) :
    t.Shallow limit where
  length_le _ path := Nat.le_trans path.length_le_depth shallow
  evaluates slots := evaluateUpTo_eq slots t shallow
  supplies table := supplyUpTo_eq table t shallow

mutual

theorem depth_supply (table : List Source) (t : Term) : (t.supply table).depth = t.depth := by
  match t with
  | .chain head tail =>
    rw [supply_chain, depth, depth, depth_supply table head, tailDepth_supply table tail]
  | .neg operand => rw [supply, depth, depth, depth_supply table operand]
  | .call function argument => rw [supply, depth, depth, depth_supply table argument]
  | .log base value =>
    rw [supply, depth, depth, depth_supply table base, depth_supply table value]
  | .literal value => rfl
  | .slot index =>
    simp only [supply]
    cases table[index]? with
    | none => rfl
    | some source => cases source <;> rfl

theorem tailDepth_supply (table : List Source) (tail : List (Operator × Term)) :
    tailDepth (tail.map fun (op, operand) => (op, operand.supply table)) = tailDepth tail := by
  match tail with
  | [] => rfl
  | (op, operand) :: rest =>
    rw [List.map_cons, tailDepth, tailDepth, depth_supply table operand,
      tailDepth_supply table rest]

end

end Term

namespace Syntax

-- How many nodes the layers from this one down can put on a path.
def Layer.height : Layer → Nat
  | .run .sum => 5
  | .run .product => 4
  | .run .power => 3
  | .unary => 2
  | .primary => 1

theorem Layer.height_run (level : Level) :
    (Layer.run level).height = (Layer.below level).height + 1 := by
  cases level <;> rfl

def Derivation.nesting : {l : Layer} → Derivation l → Nat
  | _, single operand => operand.nesting
  | _, more run _ _ operand => max run.nesting operand.nesting
  | _, plain primary => primary.nesting
  | _, negated primary => primary.nesting
  | _, number _ _ => 0
  | _, name _ _ => 0
  | _, group inner => inner.nesting + 1
  | _, call _ argument => argument.nesting + 1
  | _, log base value => max base.nesting value.nesting + 1

theorem restNesting_append (left right : List (Operator × Operand)) :
    restNesting (left ++ right) = max (restNesting left) (restNesting right) := by
  induction left with
  | nil => simp [restNesting]
  | cons entry left ih => simp [restNesting, ih, Nat.max_assoc]

theorem Phrase.nesting_join (left right : Phrase) (op : Operator) :
    (left.join op right).nesting = max left.nesting right.nesting := by
  obtain ⟨first, rest⟩ := left
  obtain ⟨first', rest'⟩ := right
  simp [join, Phrase.nesting, restNesting_append, restNesting, Nat.max_assoc]

namespace Derivation

theorem nesting_phrase {l : Layer} (d : Derivation l) : d.phrase.nesting = d.nesting := by
  have alone (count : Nat) : max count 0 = count := Nat.max_zero count
  induction d with
  | single operand ih => exact ih
  | more run op atLevel operand runNesting operandNesting =>
    change (Phrase.join run.phrase op operand.phrase).nesting = _
    rw [Phrase.nesting_join, runNesting, operandNesting, nesting]
  | plain primary ih => exact ih
  | negated primary ih => exact ih
  | number literal wf => rfl
  | name letters wf => rfl
  | group inner ih => exact (alone _).trans (congrArg (· + 1) ih)
  | call function argument ih => exact (alone _).trans (congrArg (· + 1) ih)
  | log base value ofBase ofValue =>
    exact (alone _).trans (congrArg₂ (fun b v => max b v + 1) ofBase ofValue)

theorem peak_text (d : Derivation (.run .sum)) : peak 0 d.text = d.nesting := by
  rw [← d.text_phrase, Phrase.peak_text d.wellFormed_phrase, nesting_phrase]

end Derivation

section

variable {names : List String}

mutual

theorem Flattens.depth_le {l : Layer} {d : Derivation l} {t : Term} (h : Flattens names d t) :
    t.depth ≤ l.height + 5 * d.nesting := by
  match h with
  | .single flattens =>
    have operand := flattens.depth_le
    rw [Layer.height_run, Derivation.nesting]
    omega
  | .chained operands several apart =>
    have parts := operands.depth_le
    rw [Layer.height_run, Term.depth]
    omega
  | .continued operands several same =>
    -- The operands of the chain at the front are as deep as if it were not taken apart.
    have parts := operands.depth_le
    rw [Term.depth] at parts
    rw [Layer.height_run, Term.depth, Term.tailDepth_append]
    omega
  | .plain flattens =>
    have primary := flattens.depth_le
    simp only [Layer.height, Derivation.nesting] at primary ⊢
    omega
  | .negated flattens =>
    have primary := flattens.depth_le
    simp only [Layer.height, Derivation.nesting, Term.depth] at primary ⊢
    omega
  | .number literal wf => simp [Term.depth, Layer.height]
  | .name letters wf => simp [Term.depth, Layer.height]
  | .group flattens =>
    have inner := flattens.depth_le
    simp only [Layer.height, Derivation.nesting] at inner ⊢
    omega
  | .call function flattens =>
    have argument := flattens.depth_le
    simp only [Layer.height, Derivation.nesting, Term.depth] at argument ⊢
    omega
  | .log ofBase ofValue =>
    have base := ofBase.depth_le
    have value := ofValue.depth_le
    simp only [Layer.height, Derivation.nesting, Term.depth] at base value ⊢
    omega

theorem Operands.depth_le {level : Level} {run : Derivation (.run level)} {first : Term}
    {later : List (Operator × Term)} (h : Operands names run first later) :
    max first.depth (Term.tailDepth later) ≤ (Layer.below level).height + 5 * run.nesting := by
  match h with
  | .single flattens =>
    have operand := flattens.depth_le
    simpa [Term.tailDepth, Derivation.nesting] using operand
  | .more op here before flattens =>
    have parts := before.depth_le
    have operand := flattens.depth_le
    rw [Term.tailDepth_append, Derivation.nesting]
    simp only [Term.tailDepth]
    omega

end

end

end Syntax

namespace Formula

open Syntax

theorem depth_root_le {s : String} {f : Formula} (accepted : parse s = .ok f) :
    f.root.depth ≤ 5 * (peak 0 (Text.strip s.toList) + 1) := by
  obtain ⟨d, derives, rfl⟩ := exists_derivation accepted
  have flattens := (flattens_iff d _).mpr (d.tree_phrase d.phrase.names)
  have bound := flattens.depth_le
  rw [← derives, d.peak_text]
  simp only [Layer.height] at bound
  change (d.phrase.tree d.phrase.names).depth ≤ _
  omega

theorem root_shallow {s : String} {f : Formula} (accepted : parse s = .ok f) :
    peak 0 (Text.strip s.toList) ≤ maxNesting ∧
    5 * (peak 0 (Text.strip s.toList) + 1) ≤ 325 ∧
    f.root.Shallow (5 * (peak 0 (Text.strip s.toList) + 1)) ∧
    ∀ (answer : String → Option Source) (t : Term), f.bind answer = .ok t →
      t.Shallow (5 * (peak 0 (Text.strip s.toList) + 1)) := by
  obtain ⟨-, -, nested, -⟩ := (parse_eq_ok_iff s f).mp accepted
  have bound := depth_root_le accepted
  refine ⟨nested, ?_, Term.shallow_of_depth_le bound, ?_⟩
  · have limit : maxNesting = 64 := rfl
    omega
  · intro answer t bound'
    obtain ⟨table, -, rfl⟩ := eq_supply_of_bind bound'
    exact Term.shallow_of_depth_le (by rwa [Term.depth_supply])

-- The bound is reached: five nodes outside the parentheses and five inside them.
theorem root_shallow_of_call :
    ∃ f : Formula, parse "1 - 2 * 3 ^ -sin(1 - 2 * 3 ^ -x)" = .ok f ∧
      f.root.Shallow 10 ∧ ∃ nodes : List Term, f.root.Path nodes ∧ nodes.length = 10 := by
  obtain ⟨f, accepted, deep⟩ : ∃ f : Formula,
      parse "1 - 2 * 3 ^ -sin(1 - 2 * 3 ^ -x)" = .ok f ∧ f.root.depth = 10 :=
    ⟨_, rfl, rfl⟩
  obtain ⟨nodes, path, length⟩ := f.root.exists_path_of_depth
  exact ⟨f, accepted, (root_shallow accepted).2.2.1, nodes, path, length.trans deep⟩

end Formula

end FormulaNumerics
