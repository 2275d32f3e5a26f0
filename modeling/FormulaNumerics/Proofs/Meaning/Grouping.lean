import FormulaNumerics.Proofs.Meaning.Layers

set_option autoImplicit false

namespace FormulaNumerics.Term

-- The pieces at the front that belong to the first run, and what is behind it.
def runs (level : Level) : List (Operator × Term) →
    List (Operator × Term) × List (Operator × Term)
  | [] => ([], [])
  | (op, operand) :: rest =>
    if op.level = level then ((op, operand) :: (runs level rest).1, (runs level rest).2)
    else ([], (op, operand.extend (runs level rest).1) :: (runs level rest).2)

theorem collapse_eq (level : Level) (first : Term) (rest : List (Operator × Term)) :
    collapse level first rest = (first.extend (runs level rest).1, (runs level rest).2) := by
  have fold : rest.foldr (fun entry result =>
      if entry.1.level = level then (entry :: result.1, result.2)
      else ([], (entry.1, entry.2.extend result.1) :: result.2)) ([], []) = runs level rest := by
    induction rest with
    | nil => rfl
    | cons entry rest ih => rw [List.foldr_cons, ih, runs]
  rw [← fold]
  rfl

theorem runs_append (level : Level) {op : Operator} (apart : op.level ≠ level) (operand : Term)
    (left right : List (Operator × Term)) :
    runs level (left ++ (op, operand) :: right) = ((runs level left).1, (runs level left).2 ++
      (op, operand.extend (runs level right).1) :: (runs level right).2) := by
  induction left with
  | nil => simp [runs, apart]
  | cons entry left ih =>
    by_cases here : entry.1.level = level
    · simp [runs, here, ih]
    · simp [runs, here, ih]

theorem runs_of_level {level : Level} {run : List (Operator × Term)}
    (atLevel : ∀ entry ∈ run, entry.1.level = level) : runs level run = (run, []) := by
  induction run with
  | nil => rfl
  | cons entry run ih =>
    rw [runs, ih fun later member => atLevel later (by simp [member]),
      if_pos (atLevel entry (by simp))]

theorem level_of_runs {level : Level} {rest : List (Operator × Term)}
    (nothingBehind : (runs level rest).2 = []) : ∀ entry ∈ rest, entry.1.level = level := by
  induction rest with
  | nil => simp
  | cons entry rest ih =>
    by_cases here : entry.1.level = level
    · simp only [runs, here, if_true] at nothingBehind
      simpa [here] using ih nothingBehind
    · simp [runs, here] at nothingBehind

theorem opened_level (level : Level) (t : Term) :
    ∀ entry ∈ (t.opened level).2.head?, entry.1.level = level := by
  intro entry first
  obtain alone | ⟨head, tail, -, atLevel, spliced⟩ := opened_cases level t
  · simp [alone] at first
  · rw [spliced] at first
    exact atLevel entry first

theorem opened_extend {level : Level} (t : Term) {run : List (Operator × Term)}
    (nonempty : run ≠ []) (atLevel : ∀ entry ∈ run, entry.1.level = level) :
    (t.extend run).opened level = ((t.opened level).1, (t.opened level).2 ++ run) := by
  obtain ⟨⟨op, operand⟩, rest, rfl⟩ := List.exists_cons_of_ne_nil nonempty
  have here : op.level = level := atLevel (op, operand) (by simp)
  have front := opened_level level t
  subst here
  simp only [extend]
  cases open_ : (t.opened op.level).2 with
  | nil => simp [opened]
  | cons entry tail =>
    have first : entry.1.level = op.level := front entry (by simp [open_])
    simp [opened, first]

theorem extend_extend {level : Level} (t : Term) (run : List (Operator × Term)) {op : Operator}
    (operand : Term) (atLevel : ∀ entry ∈ run, entry.1.level = level) (here : op.level = level) :
    (t.extend run).extend [(op, operand)] = t.extend (run ++ [(op, operand)]) := by
  cases run with
  | nil => rfl
  | cons entry run =>
    have first : entry.1.level = op.level := (atLevel entry (by simp)).trans here.symm
    have sameLevel : ∀ later ∈ entry :: run, later.1.level = op.level :=
      fun later member => (atLevel later member).trans here.symm
    have continued := opened_extend t (by simp) sameLevel
    rw [extend, continued]
    simp [extend, first]

theorem collapse_concat {level : Level} {first result operand : Term}
    {rest : List (Operator × Term)} {op : Operator} (here : op.level = level)
    (alone : collapse level first rest = (result, [])) :
    collapse level first (rest ++ [(op, operand)]) = (result.extend [(op, operand)], []) := by
  rw [collapse_eq, Prod.mk.injEq] at alone
  have atLevel := level_of_runs alone.2
  have allAtLevel : ∀ entry ∈ rest ++ [(op, operand)], entry.1.level = level := by
    intro entry member
    rw [List.mem_append, List.mem_singleton] at member
    obtain earlier | rfl := member
    · exact atLevel entry earlier
    · exact here
  rw [runs_of_level atLevel] at alone
  rw [collapse_eq, runs_of_level allAtLevel, ← alone.1,
    extend_extend first rest operand atLevel here]

end FormulaNumerics.Term

namespace FormulaNumerics.Syntax

open Term (collapse collapse_eq runs_append)

def Phrase.terms (names : List String) : Phrase → Term × List (Operator × Term)
  | .mk first rest => (first.tree names, rest.map fun (op, operand) => (op, operand.tree names))

theorem Phrase.terms_join (names : List String) (left right : Phrase) (op : Operator) :
    (left.join op right).terms names = ((left.terms names).1,
      (left.terms names).2 ++ (op, (right.terms names).1) :: (right.terms names).2) := by
  obtain ⟨first, rest⟩ := left
  obtain ⟨first', rest'⟩ := right
  simp [join, terms]

-- The levels of a layer and all below it, gathered from the highest down.
def Layer.gather : Layer → Term × List (Operator × Term) → Term × List (Operator × Term)
  | .run .power, t => collapse .power t.1 t.2
  | .run .product, t =>
    let t := collapse .power t.1 t.2
    collapse .product t.1 t.2
  | .run .sum, t =>
    let t := collapse .power t.1 t.2
    let t := collapse .product t.1 t.2
    collapse .sum t.1 t.2
  | .unary, t => t
  | .primary, t => t

theorem Layer.gather_run (level : Level) (t : Term × List (Operator × Term)) :
    (Layer.run level).gather t = collapse level ((Layer.below level).gather t).1
      ((Layer.below level).gather t).2 := by
  cases level <;> rfl

theorem Phrase.tree_eq (names : List String) (p : Phrase) :
    p.tree names = ((Layer.run .sum).gather (p.terms names)).1 := by
  obtain ⟨first, rest⟩ := p
  rw [Phrase.tree_mk]
  rfl

-- The levels below a run leave its operators where they are.
theorem Layer.gather_append {op : Operator} {level : Level} (here : op.level = level)
    (left right : Term × List (Operator × Term)) :
    (Layer.below level).gather (left.1, left.2 ++ (op, right.1) :: right.2) =
      (((Layer.below level).gather left).1, ((Layer.below level).gather left).2 ++
        (op, ((Layer.below level).gather right).1) :: ((Layer.below level).gather right).2) := by
  subst here
  cases level : op.level with
  | sum =>
    have notPower : op.level ≠ .power := by simp [level]
    have notProduct : op.level ≠ .product := by simp [level]
    simp only [Layer.below, gather, collapse_eq, runs_append _ notPower, runs_append _ notProduct]
  | product =>
    have notPower : op.level ≠ .power := by simp [level]
    simp only [Layer.below, gather, collapse_eq, runs_append _ notPower]
  | power => rfl

namespace Derivation

def tree (names : List String) : {l : Layer} → Derivation l → Term
  | _, single operand => operand.tree names
  | _, more run op _ operand => (run.tree names).extend [(op, operand.tree names)]
  | _, plain primary => primary.tree names
  | _, negated primary => .neg (primary.tree names)
  | _, number literal _ => .literal literal.value
  | _, name letters _ => .slot (names.idxOf (String.ofList letters))
  | _, group inner => inner.tree names
  | _, call function argument => .call function (argument.tree names)
  | _, log base value => .log (base.tree names) (value.tree names)

theorem gather_terms (names : List String) {l : Layer} (d : Derivation l) :
    l.gather (d.phrase.terms names) = (d.tree names, []) := by
  induction d with
  | @single level operand ih =>
    change (Layer.run level).gather (operand.phrase.terms names) = (operand.tree names, [])
    rw [Layer.gather_run, ih]
    rfl
  | @more level run op atLevel operand runTerms operandTerms =>
    change (Layer.run level).gather ((Phrase.join run.phrase op operand.phrase).terms names) =
      ((run.tree names).extend [(op, operand.tree names)], [])
    rw [Layer.gather_run] at runTerms ⊢
    rw [Phrase.terms_join, Layer.gather_append atLevel, operandTerms]
    exact Term.collapse_concat atLevel runTerms
  | plain primary ih => exact ih
  | negated primary ih =>
    have sameTerm := congrArg (fun t => (Term.neg t.1, t.2)) ih
    exact sameTerm
  | number literal wf => rfl
  | name letters wf => rfl
  | group inner ih =>
    have sameTerm := inner.phrase.tree_eq names
    rw [ih] at sameTerm
    exact congrArg (fun t => (t, [])) sameTerm
  | call function argument ih =>
    have sameTerm := argument.phrase.tree_eq names
    rw [ih] at sameTerm
    exact congrArg (fun t => (Term.call function t, [])) sameTerm
  | log base value baseTerms valueTerms =>
    have sameBase := base.phrase.tree_eq names
    have sameValue := value.phrase.tree_eq names
    rw [baseTerms] at sameBase
    rw [valueTerms] at sameValue
    exact congrArg₂ (fun b v => (Term.log b v, [])) sameBase sameValue

theorem tree_phrase (names : List String) (d : Derivation (.run .sum)) :
    d.phrase.tree names = d.tree names := by
  rw [Phrase.tree_eq, gather_terms]

end Derivation

end FormulaNumerics.Syntax
