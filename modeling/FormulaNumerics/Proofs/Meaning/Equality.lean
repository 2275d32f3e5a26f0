import FormulaNumerics.Proofs.Meaning.Faults
import FormulaNumerics.Proofs.Numeric.Unsigned

set_option autoImplicit false

namespace FormulaNumerics

namespace Term

mutual

def Identical : Term → Term → Prop
  | .chain head tail, .chain head' tail' => head.Identical head' ∧ TailIdentical tail tail'
  | .neg operand, .neg operand' => operand.Identical operand'
  | .call function argument, .call function' argument' =>
    function = function' ∧ argument.Identical argument'
  | .log base value, .log base' value' => base.Identical base' ∧ value.Identical value'
  | .literal value, .literal value' => value.toBits = value'.toBits
  | .slot index, .slot index' => index = index'
  | _, _ => False

def TailIdentical : List (Operator × Term) → List (Operator × Term) → Prop
  | [], [] => True
  | (op, operand) :: rest, (op', operand') :: rest' =>
    op = op' ∧ operand.Identical operand' ∧ TailIdentical rest rest'
  | _, _ => False

end

mutual

theorem identical_iff_eq (t u : Term) : t.Identical u ↔ t = u := by
  match t with
  | .chain head tail =>
    cases u with
    | chain head' tail' =>
      rw [Identical, identical_iff_eq head, tailIdentical_iff_eq tail, Term.chain.injEq]
    | _ => simp [Identical]
  | .neg operand =>
    cases u with
    | neg operand' => rw [Identical, identical_iff_eq operand, Term.neg.injEq]
    | _ => simp [Identical]
  | .call function argument =>
    cases u with
    | call function' argument' => rw [Identical, identical_iff_eq argument, Term.call.injEq]
    | _ => simp [Identical]
  | .log base value =>
    cases u with
    | log base' value' =>
      rw [Identical, identical_iff_eq base, identical_iff_eq value, Term.log.injEq]
    | _ => simp [Identical]
  | .literal value =>
    cases u with
    | literal value' => rw [Identical, Float.toBits_inj, Term.literal.injEq]
    | _ => simp [Identical]
  | .slot index =>
    cases u with
    | slot index' => rw [Identical, Term.slot.injEq]
    | _ => simp [Identical]

theorem tailIdentical_iff_eq (tail tail' : List (Operator × Term)) :
    TailIdentical tail tail' ↔ tail = tail' := by
  match tail with
  | [] => cases tail' <;> simp [TailIdentical]
  | (op, operand) :: rest =>
    match tail' with
    | [] => simp [TailIdentical]
    | (op', operand') :: rest' =>
      rw [TailIdentical, identical_iff_eq operand, tailIdentical_iff_eq rest, List.cons.injEq,
        Prod.mk.injEq, and_assoc]

end

mutual

def Literals (holds : Float → Prop) : Term → Prop
  | .chain head tail => head.Literals holds ∧ TailLiterals holds tail
  | .neg operand => operand.Literals holds
  | .call _ argument => argument.Literals holds
  | .log base value => base.Literals holds ∧ value.Literals holds
  | .literal value => holds value
  | .slot _ => True

def TailLiterals (holds : Float → Prop) : List (Operator × Term) → Prop
  | [] => True
  | (_, operand) :: rest => operand.Literals holds ∧ TailLiterals holds rest

end

mutual

theorem same_iff_identical (t u : Term) (left : t.Literals Unsigned)
    (right : u.Literals Unsigned) : t.same u = true ↔ t.Identical u := by
  match t with
  | .chain head tail =>
    cases u with
    | chain head' tail' =>
      rw [same, Identical, Bool.and_eq_true, same_iff_identical head head' left.1 right.1,
        sameTail_iff_identical tail tail' left.2 right.2]
    | _ => simp [same, Identical]
  | .neg operand =>
    cases u with
    | neg operand' => rw [same, Identical, same_iff_identical operand operand' left right]
    | _ => simp [same, Identical]
  | .call function argument =>
    cases u with
    | call function' argument' =>
      rw [same, Identical, Bool.and_eq_true, beq_iff_eq,
        same_iff_identical argument argument' left right]
    | _ => simp [same, Identical]
  | .log base value =>
    cases u with
    | log base' value' =>
      rw [same, Identical, Bool.and_eq_true, same_iff_identical base base' left.1 right.1,
        same_iff_identical value value' left.2 right.2]
    | _ => simp [same, Identical]
  | .literal value =>
    cases u with
    | literal value' => exact Unsigned.beq_iff left right
    | _ => simp [same, Identical]
  | .slot index =>
    cases u with
    | slot index' => rw [same, Identical, beq_iff_eq]
    | _ => simp [same, Identical]

theorem sameTail_iff_identical (tail tail' : List (Operator × Term))
    (left : TailLiterals Unsigned tail) (right : TailLiterals Unsigned tail') :
    sameTail tail tail' = true ↔ TailIdentical tail tail' := by
  match tail with
  | [] => cases tail' <;> simp [sameTail, TailIdentical]
  | (op, operand) :: rest =>
    match tail' with
    | [] => simp [sameTail, TailIdentical]
    | (op', operand') :: rest' =>
      rw [sameTail, TailIdentical, Bool.and_eq_true, Bool.and_eq_true, beq_iff_eq,
        same_iff_identical operand operand' left.1 right.1,
        sameTail_iff_identical rest rest' left.2 right.2, and_assoc]

end

-- A literal with a sign could be taken for another one.
example : (literal 0.0).same (literal (-0.0)) = true := by decide +kernel

section

variable {holds : Float → Prop}

theorem tailLiterals_append (left right : List (Operator × Term)) :
    TailLiterals holds (left ++ right) ↔ TailLiterals holds left ∧ TailLiterals holds right := by
  induction left with
  | nil => simp [TailLiterals]
  | cons entry left ih => simp [TailLiterals, ih, and_assoc]

theorem literals_opened (level : Level) {t : Term} (literals : t.Literals holds) :
    (t.opened level).1.Literals holds ∧ TailLiterals holds (t.opened level).2 := by
  obtain alone | ⟨head, tail, rfl, -, spliced⟩ := opened_cases level t
  · rw [alone]
    exact ⟨literals, trivial⟩
  · rw [spliced]
    exact literals

theorem literals_extend {t operand : Term} (op : Operator) (literals : t.Literals holds)
    (operandLiterals : operand.Literals holds) :
    (t.extend [(op, operand)]).Literals holds := by
  obtain ⟨headLiterals, tailLiterals⟩ := literals_opened op.level literals
  exact ⟨headLiterals, (tailLiterals_append _ _).mpr ⟨tailLiterals, operandLiterals, trivial⟩⟩

mutual

theorem literals_supply {table : List Source}
    (constants : ∀ value : Float, Source.constant value ∈ table → holds value) (t : Term)
    (literals : t.Literals holds) : (t.supply table).Literals holds := by
  match t with
  | .chain head tail =>
    rw [supply_chain]
    exact ⟨literals_supply constants head literals.1,
      tailLiterals_supply constants tail literals.2⟩
  | .neg operand => exact literals_supply constants operand literals
  | .call function argument => exact literals_supply constants argument literals
  | .log base value =>
    exact ⟨literals_supply constants base literals.1, literals_supply constants value literals.2⟩
  | .literal value => exact literals
  | .slot index =>
    cases known : table[index]? with
    | none =>
      simp only [supply, known]
      trivial
    | some source =>
      simp only [supply, known]
      cases source with
      | slot index' => trivial
      | constant value => exact constants value (List.mem_of_getElem? known)

theorem tailLiterals_supply {table : List Source}
    (constants : ∀ value : Float, Source.constant value ∈ table → holds value)
    (tail : List (Operator × Term)) (literals : TailLiterals holds tail) :
    TailLiterals holds (tail.map fun (op, operand) => (op, operand.supply table)) := by
  match tail with
  | [] => trivial
  | (op, operand) :: rest =>
    exact ⟨literals_supply constants operand literals.1,
      tailLiterals_supply constants rest literals.2⟩

end

end

end Term

theorem Syntax.Derivation.unsigned_tree {l : Layer} (d : Derivation l) (names : List String) :
    (d.tree names).Literals Unsigned := by
  induction d with
  | single operand ih => exact ih
  | more run op atLevel operand runLiterals operandLiterals =>
    exact Term.literals_extend op runLiterals operandLiterals
  | plain primary ih => exact ih
  | negated primary ih => exact ih
  | number literal wf => exact unsigned_magnitude _ _
  | name letters wf => trivial
  | group inner ih => exact ih
  | call function argument ih => exact ih
  | log base value baseLiterals valueLiterals => exact ⟨baseLiterals, valueLiterals⟩

namespace Formula

theorem unsigned_of_parse {s : String} {f : Formula} (accepted : parse s = .ok f) :
    f.root.Literals Unsigned := by
  obtain ⟨d, -, rfl⟩ := exists_derivation accepted
  change (d.phrase.tree d.phrase.names).Literals Unsigned
  rw [Syntax.Derivation.tree_phrase]
  exact d.unsigned_tree _

theorem beq_iff_identical {f g : Formula} (left : f.root.Literals Unsigned)
    (right : g.root.Literals Unsigned) :
    (f == g) = true ↔ f.names = g.names ∧ f.root.Identical g.root := by
  change (f.root.same g.root && f.names == g.names) = true ↔ _
  rw [Bool.and_eq_true, Term.same_iff_identical _ _ left right, beq_iff_eq, and_comm]

theorem eq_of_identical {f g : Formula} (names : f.names = g.names)
    (identical : f.root.Identical g.root) : f = g := by
  obtain ⟨root, names⟩ := f
  obtain ⟨root', names'⟩ := g
  rw [mk.injEq]
  exact ⟨(Term.identical_iff_eq root root').mp identical, names⟩

end Formula

namespace Curve

theorem unsigned_of_source? {name : String} {value : Float}
    (known : source? name = some (.constant value)) : Unsigned value := by
  obtain isSlot | isConstant := source?_cases known
  · cases isSlot
  · cases isConstant
    exact unsigned_of_toBits_le (by decide +kernel)

theorem unsigned_of_ofText {s : String} {c : Curve} (built : ofText s = .ok c) :
    c.body.Literals Unsigned := by
  obtain ⟨f, accepted, made⟩ := ok_of_bind built
  obtain ⟨table, resolved, body⟩ := Formula.eq_supply_of_bind (bind_of_ofFormula made)
  rw [body]
  refine f.root.literals_supply ?_ (Formula.unsigned_of_parse accepted)
  intro value member
  obtain ⟨name, -, known⟩ := Formula.exists_name_of_resolve resolved member
  exact unsigned_of_source? known

theorem eq_of_identical {c d : Curve} (identical : c.body.Identical d.body) : c = d :=
  congrArg mk ((Term.identical_iff_eq c.body d.body).mp identical)

end Curve

namespace Formula

theorem equality_exact {s t : String} {f g : Formula} (accepted : parse s = .ok f)
    (accepted' : parse t = .ok g) :
    ((f == g) = true ↔ f.names = g.names ∧ f.root.Identical g.root) ∧
    (f == f) = true ∧
    ((f == g) = true → ∀ v : Valuation, f.evaluate v = g.evaluate v) ∧
    ∀ c d : Curve, Curve.ofText s = .ok c → Curve.ofText t = .ok d →
      ((c == d) = true ↔ c.body.Identical d.body) ∧
      (c == c) = true ∧
      ((c == d) = true → ∀ x : Float, c.value x = d.value x) := by
  have left := unsigned_of_parse accepted
  have right := unsigned_of_parse accepted'
  have same := beq_iff_identical left right
  refine ⟨same, ?_, ?_, ?_⟩
  · exact (beq_iff_identical left left).mpr ⟨rfl, (Term.identical_iff_eq _ _).mpr rfl⟩
  · intro equal v
    obtain ⟨names, identical⟩ := same.mp equal
    rw [eq_of_identical names identical]
  · intro c d built built'
    have cUnsigned := Curve.unsigned_of_ofText built
    have dUnsigned := Curve.unsigned_of_ofText built'
    have sameBody : (c == d) = true ↔ c.body.Identical d.body :=
      Term.same_iff_identical _ _ cUnsigned dUnsigned
    refine ⟨sameBody, ?_, ?_⟩
    · exact (Term.same_iff_identical _ _ cUnsigned cUnsigned).mpr
        ((Term.identical_iff_eq _ _).mpr rfl)
    · intro equal x
      rw [Curve.eq_of_identical (sameBody.mp equal)]

theorem equal_with_trailing_zero :
    ∃ (f g : Formula) (c d : Curve),
      parse "x * 1.50 - e" = .ok f ∧ parse "x*1.5-e" = .ok g ∧
      Curve.ofText "x * 1.50 - e" = .ok c ∧ Curve.ofText "x*1.5-e" = .ok d ∧
      (f == g) = true ∧ (∀ v : Valuation, f.evaluate v = g.evaluate v) ∧
      (c == d) = true ∧ ∀ x : Float, c.value x = d.value x := by
  obtain ⟨f, g, accepted, accepted', equal⟩ : ∃ f g : Formula,
      parse "x * 1.50 - e" = .ok f ∧ parse "x*1.5-e" = .ok g ∧ (f == g) = true :=
    ⟨_, _, rfl, rfl, by decide +kernel⟩
  obtain ⟨c, d, built, built', equalCurves⟩ : ∃ c d : Curve,
      Curve.ofText "x * 1.50 - e" = .ok c ∧ Curve.ofText "x*1.5-e" = .ok d ∧ (c == d) = true :=
    ⟨_, _, rfl, rfl, by decide +kernel⟩
  obtain ⟨-, -, evaluated, curves⟩ := equality_exact accepted accepted'
  obtain ⟨-, -, sampled⟩ := curves c d built built'
  exact ⟨f, g, c, d, accepted, accepted', built, built', equal, evaluated equal, equalCurves,
    sampled equalCurves⟩

end Formula

end FormulaNumerics
