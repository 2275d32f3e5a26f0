import FormulaNumerics.Proofs.Meaning.Faults
import FormulaNumerics.Proofs.Syntax.Pairs

set_option autoImplicit false

namespace FormulaNumerics.Syntax

-- The climb breaks down where the pairs do not have the shape that it expects.
inductive Mishap where
  | noExpression
  | operandExpected
  | operatorExpected
  | notOperator (rule : PairRule)
  | notSign (rule : PairRule)
  | notPrimary (rule : PairRule)
  | noFunctionName
  | unknownFunction (name : String)
  | noLogBase
  | noLogValue
  | unreadableNumber (text : List Char)

section Precedence

inductive Token where
  | operand (t : Term)
  | sign
  | operator (op : Operator)

def signStrength : Nat := 40

def strength (op : Operator) : Nat :=
  match op.level with
  | .sum => 10
  | .product => 20
  | .power => 30

inductive Frame where
  | sign
  | operator (left : Term) (op : Operator)

-- Only an operator that is stronger than this takes the operand away from the frame.
def Frame.bound : Frame → Nat
  | .sign => signStrength - 1
  | .operator _ op => strength op

def Frame.apply (operand : Term) : Frame → Term
  | .sign => .neg operand
  | .operator left op => left.extend [(op, operand)]

-- An operator of this strength does not take the operand away from the frames it is given to.
def complete (stronger : Nat) (operand : Term) : List Frame → Term × List Frame
  | [] => (operand, [])
  | frame :: frames =>
    if frame.bound < stronger then (operand, frame :: frames)
    else complete stronger (frame.apply operand) frames

mutual

def climbOperand (frames : List Frame) : List Token → Except Mishap Term
  | [] => .error .operandExpected
  | .operand t :: rest => climbOperator frames t rest
  | .sign :: rest => climbOperand (.sign :: frames) rest
  | .operator _ :: _ => .error .operandExpected

def climbOperator (frames : List Frame) (operand : Term) : List Token → Except Mishap Term
  | [] => .ok (complete 0 operand frames).1
  | .operator op :: rest =>
    let (left, frames) := complete (strength op) operand frames
    climbOperand (.operator left op :: frames) rest
  | .operand _ :: _ => .error .operatorExpected
  | .sign :: _ => .error .operatorExpected

end

end Precedence

namespace PairRule

inductive Affix where
  | between
  | before

def affix? : PairRule → Option Affix
  | .add | .subtract | .multiply | .divide | .power => some .between
  | .negation => some .before
  | _ => none

def operator : PairRule → Except Mishap Operator
  | .add => .ok .add
  | .subtract => .ok .subtract
  | .multiply => .ok .multiply
  | .divide => .ok .divide
  | .power => .ok .power
  | rule => .error (.notOperator rule)

def sign : PairRule → Except Mishap Unit
  | .negation => .ok ()
  | rule => .error (.notSign rule)

end PairRule

def intern (names : List String) (name : String) : Nat × List String :=
  if name ∈ names then (names.idxOf name, names) else (names.length, names ++ [name])

namespace Pair

mutual

def operand (names : List String) : Pair → Except Mishap (Term × List String)
  | .node .expression _ children => do
    let (found, names) ← tokens names children
    let t ← climbOperand [] found
    return (t, names)
  | .node .number text _ =>
    match Decimal.read? text with
    | some value => .ok (.literal value, names)
    | none => .error (.unreadableNumber text)
  | .node .variableName text _ =>
    let (index, names) := intern names (String.ofList text)
    .ok (.slot index, names)
  | .node .functionCall _ [] => .error .noFunctionName
  | .node .functionCall _ (.node _ name _ :: arguments) => do
    let f ← (NamedFunction.ofName? (String.ofList name)).elim
      (.error (.unknownFunction (String.ofList name))) .ok
    let (found, names) ← tokens names arguments
    let t ← climbOperand [] found
    return (.call f t, names)
  | .node .logarithmCall _ [] => .error .noLogBase
  | .node .logarithmCall _ [_] => .error .noLogValue
  | .node .logarithmCall _ (.node _ _ base :: .node _ _ value :: _) => do
    let (baseFound, names) ← tokens names base
    let b ← climbOperand [] baseFound
    let (valueFound, names) ← tokens names value
    let v ← climbOperand [] valueFound
    return (.log b v, names)
  | .node rule _ _ => .error (.notPrimary rule)

def tokens (names : List String) : List Pair → Except Mishap (List Token × List String)
  | [] => .ok ([], names)
  | pair :: rest => do
    let (token, names) ← match pair.rule.affix? with
      | some .between => pair.rule.operator.map fun op => (.operator op, names)
      | some .before => pair.rule.sign.map fun _ => (.sign, names)
      | none => (pair.operand names).map fun (t, names) => (.operand t, names)
    let (found, names) ← tokens names rest
    return (token :: found, names)

end

def climb : List Pair → Except Mishap Formula
  | [] => .error .noExpression
  | .node _ _ children :: _ => do
    let (found, names) ← tokens [] children
    let root ← climbOperand [] found
    return ⟨root, names⟩

end Pair

def Layer.strength : Layer → Nat
  | .run .sum => 10
  | .run .product => 20
  | .run .power => 30
  | .unary => signStrength
  | .primary => signStrength

theorem strength_eq {op : Operator} {level : Level} (atLevel : op.level = level) :
    strength op = (Layer.run level).strength := by
  subst atLevel
  cases op <;> rfl

theorem Layer.strength_below (level : Level) :
    (Layer.run level).strength < (Layer.below level).strength := by
  cases level <;> decide

theorem strength_lt_sign (op : Operator) : strength op < signStrength := by
  cases op <;> decide

theorem complete_of_bound {stronger : Nat} {frames : List Frame}
    (bounded : ∀ frame ∈ frames.head?, frame.bound < stronger) (operand : Term) :
    complete stronger operand frames = (operand, frames) := by
  cases frames with
  | nil => rfl
  | cons frame frames => exact if_pos (bounded frame rfl)

theorem climbOperator_frame {frame : Frame} {rest : List Token}
    (weaker : ∀ (op : Operator) (tail : List Token), rest = .operator op :: tail →
      strength op ≤ frame.bound) (frames : List Frame) (operand : Term) :
    climbOperator (frame :: frames) operand rest =
      climbOperator frames (frame.apply operand) rest := by
  cases rest with
  | nil => rfl
  | cons token tail =>
    cases token with
    | operand t => rfl
    | sign => rfl
    | operator op =>
      have notStronger : ¬ frame.bound < strength op := Nat.not_lt.mpr (weaker op tail rfl)
      simp only [climbOperator, complete, if_neg notStronger]

namespace Derivation

variable (names : List String)

def tokens : {l : Layer} → Derivation l → List Token
  | _, single operand => operand.tokens
  | _, more run op _ operand => run.tokens ++ .operator op :: operand.tokens
  | _, plain primary => primary.tokens
  | _, negated primary => .sign :: primary.tokens
  | _, number literal wf => [.operand ((number literal wf).tree names)]
  | _, name letters wf => [.operand ((name letters wf).tree names)]
  | _, group inner => [.operand ((group inner).tree names)]
  | _, call function argument => [.operand ((call function argument).tree names)]
  | _, log base value => [.operand ((log base value).tree names)]

-- The operands of a run are as strong as the layer below it, so each is read up to its end.
theorem climbOperand_tokens {l : Layer} (d : Derivation l) {frames : List Frame}
    {rest : List Token} (bounded : ∀ frame ∈ frames.head?, frame.bound < l.strength)
    (weaker : ∀ (op : Operator) (tail : List Token), rest = .operator op :: tail →
      strength op ≤ l.strength) :
    climbOperand frames (d.tokens names ++ rest) = climbOperator frames (d.tree names) rest := by
  induction d generalizing frames rest with
  | @single level operand ih =>
    have tighter := Layer.strength_below level
    refine ih (fun frame member => ?_) (fun op tail split => ?_)
    · exact Nat.lt_trans (bounded frame member) tighter
    · exact Nat.le_trans (weaker op tail split) (Nat.le_of_lt tighter)
  | @more level run op atLevel operand runTree operandTree =>
    have tighter := Layer.strength_below level
    have same := strength_eq atLevel
    rw [tokens, List.append_assoc, List.cons_append, runTree bounded ?_]
    -- The operator waits for its operand, and what follows the run is not stronger than it.
    · have stays := complete_of_bound (same ▸ bounded) (run.tree names)
      rw [climbOperator, stays]
      simp only
      rw [operandTree ?_ ?_, climbOperator_frame ?_]
      · rfl
      · intro op' tail split
        exact Nat.le_trans (weaker op' tail split) (Nat.le_of_eq same.symm)
      · intro frame member
        cases member
        exact Nat.lt_of_le_of_lt (Nat.le_of_eq same) tighter
      · intro op' tail split
        exact Nat.le_trans (weaker op' tail split) (Nat.le_of_lt tighter)
    · intro op' tail split
      cases split
      exact Nat.le_of_eq same
  | plain primary ih => exact ih bounded weaker
  | negated primary ih =>
    rw [tokens, List.cons_append, climbOperand, ih ?_ weaker, climbOperator_frame ?_]
    · rfl
    · intro op tail split
      exact Nat.le_sub_one_of_lt (strength_lt_sign op)
    · intro frame member
      cases member
      decide
  | number literal wf => rfl
  | name letters wf => rfl
  | group inner ih => rfl
  | call function argument ih => rfl
  | log base value baseTree valueTree => rfl

theorem climb_tokens (d : Derivation (.run .sum)) :
    climbOperand [] (d.tokens names) = .ok (d.tree names) := by
  have climbed : climbOperand [] (d.tokens names ++ []) = climbOperator [] (d.tree names) [] :=
    d.climbOperand_tokens names (by simp) (by simp)
  rwa [List.append_nil] at climbed

end Derivation

section Names

def internAll (names added : List String) : List String :=
  added.foldl (fun names name => (intern names name).2) names

theorem internAll_append (names left right : List String) :
    internAll names (left ++ right) = internAll (internAll names left) right :=
  List.foldl_append

theorem begins_intern (names : List String) (name : String) : names <+: (intern names name).2 := by
  unfold intern
  split
  next => exact List.prefix_rfl
  next => exact List.prefix_append names [name]

theorem begins_internAll (names added : List String) : names <+: internAll names added := by
  induction added generalizing names with
  | nil => exact List.prefix_rfl
  | cons name added ih => exact (begins_intern names name).trans (ih _)

theorem intern_eq_idxOf {names all : List String} {name : String}
    (begins : (intern names name).2 <+: all) : (intern names name).1 = all.idxOf name := by
  obtain ⟨later, rfl⟩ := begins
  unfold intern
  split
  next member => rw [List.idxOf_append_of_mem member]
  next missing =>
    rw [List.idxOf_append_of_mem (by simp), List.idxOf_append_of_notMem missing]
    simp

theorem internAll_eq (names added : List String) :
    internAll names added = names ++ (added.filter (· ∉ names)).eraseDups := by
  induction added generalizing names with
  | nil => simp [internAll]
  | cons name added ih =>
    change internAll (intern names name).2 added = _
    rw [ih]
    unfold intern
    split
    next member => rw [List.filter_cons_of_neg (by simpa using member)]
    next missing =>
      rw [List.filter_cons_of_pos (by simpa using missing), List.eraseDups_cons, List.filter_filter,
        List.append_assoc, List.singleton_append]
      -- A name that was new is no longer so for those behind it.
      congr 4
      funext other
      by_cases same : other = name
      · simp [same]
      · simp [same]

theorem internAll_nil (added : List String) : internAll [] added = added.eraseDups := by
  rw [internAll_eq]
  simp

end Names

section Tokens

def Pair.token (names : List String) (pair : Pair) : Except Mishap (Token × List String) :=
  match pair.rule.affix? with
  | some .between => pair.rule.operator.map fun op => (.operator op, names)
  | some .before => pair.rule.sign.map fun _ => (.sign, names)
  | none => (pair.operand names).map fun (t, names) => (.operand t, names)

theorem Pair.tokens_cons (names : List String) (pair : Pair) (rest : List Pair) :
    tokens names (pair :: rest) = (do
      let (token, names) ← pair.token names
      let (found, names) ← tokens names rest
      return (token :: found, names)) := by
  rw [tokens]
  unfold token
  cases pair.rule.affix? with
  | none => rfl
  | some affix => cases affix <;> rfl

theorem tokens_cons_of_ok {names names' names'' : List String} {pair : Pair} {rest : List Pair}
    {token : Token} {found : List Token} (first : pair.token names = .ok (token, names'))
    (others : Pair.tokens names' rest = .ok (found, names'')) :
    Pair.tokens names (pair :: rest) = .ok (token :: found, names'') := by
  rw [Pair.tokens_cons, first]
  change (Pair.tokens names' rest >>= _) = _
  rw [others]
  rfl

theorem tokens_append {names names' names'' : List String} {left right : List Pair}
    {found found' : List Token} (first : Pair.tokens names left = .ok (found, names'))
    (second : Pair.tokens names' right = .ok (found', names'')) :
    Pair.tokens names (left ++ right) = .ok (found ++ found', names'') := by
  induction left generalizing names found with
  | nil =>
    rw [Pair.tokens] at first
    cases first
    exact second
  | cons pair left ih =>
    rw [Pair.tokens_cons] at first
    obtain ⟨⟨token, between⟩, here, others⟩ := ok_of_bind first
    obtain ⟨⟨rest, _⟩, later, made⟩ := ok_of_bind others
    cases made
    exact tokens_cons_of_ok here (ih later)

theorem token_operator (names : List String) (op : Operator) :
    (Pair.ofOperator op).token names = .ok (.operator op, names) := by
  cases op <;> rfl

theorem tokens_operand {names names' : List String} {pair : Pair} {t : Term}
    (primary : pair.rule.affix? = none) (read : pair.operand names = .ok (t, names')) :
    Pair.tokens names [pair] = .ok ([.operand t], names') := by
  refine tokens_cons_of_ok ?_ rfl
  rw [Pair.token, primary]
  simp only [read]
  rfl

theorem operand_number {l : Literal} (wf : l.WellFormed) (names : List String) :
    (Pair.node .number l.text []).operand names = .ok (.literal l.value, names) := by
  rw [Pair.operand, wf.read?_text]

theorem operand_variableName {names all : List String} {letters : List Char}
    (begins : (intern names (String.ofList letters)).2 <+: all) :
    (Pair.node .variableName letters []).operand names =
      .ok (.slot (all.idxOf (String.ofList letters)),
        (intern names (String.ofList letters)).2) := by
  rw [← intern_eq_idxOf begins, Pair.operand]

section Parts

variable {names all between names' : List String} {text : List Char}

theorem operand_expression {d : Derivation (.run .sum)}
    (read : Pair.tokens names d.phrase.pairs = .ok (d.tokens all, names')) :
    (Pair.node .expression text d.phrase.pairs).operand names = .ok (d.tree all, names') := by
  rw [Pair.operand, read]
  change (climbOperand [] (d.tokens all) >>= _) = _
  rw [d.climb_tokens]
  rfl

theorem operand_functionCall (f : NamedFunction) {argument : Derivation (.run .sum)}
    {inside : List Char}
    (read : Pair.tokens names argument.phrase.pairs = .ok (argument.tokens all, names')) :
    (Pair.node .functionCall text [.node .functionName f.name.toList [],
      .node .expression inside argument.phrase.pairs]).operand names =
        .ok (.call f (argument.tree all), names') := by
  have alone : Pair.tokens names [.node .expression inside argument.phrase.pairs] =
      .ok ([.operand (argument.tree all)], names') :=
    tokens_operand rfl (operand_expression read)
  simp only [Pair.operand, String.ofList_toList, NamedFunction.ofName?_name, Option.elim]
  change (Pair.tokens names _ >>= _) = _
  rw [alone]
  rfl

theorem operand_logarithmCall {base value : Derivation (.run .sum)} {baseText valueText : List Char}
    (baseRead : Pair.tokens names base.phrase.pairs = .ok (base.tokens all, between))
    (valueRead : Pair.tokens between value.phrase.pairs = .ok (value.tokens all, names')) :
    (Pair.node .logarithmCall text [.node .expression baseText base.phrase.pairs,
      .node .expression valueText value.phrase.pairs]).operand names =
        .ok (.log (base.tree all) (value.tree all), names') := by
  rw [Pair.operand, baseRead]
  change (climbOperand [] (base.tokens all) >>= _) = _
  rw [base.climb_tokens]
  change (Pair.tokens between value.phrase.pairs >>= _) = _
  rw [valueRead]
  change (climbOperand [] (value.tokens all) >>= _) = _
  rw [value.climb_tokens]
  rfl

end Parts

theorem tokens_phrase {l : Layer} (d : Derivation l) (names : List String) {all : List String}
    (begins : internAll names d.names <+: all) :
    Pair.tokens names d.phrase.pairs = .ok (d.tokens all, internAll names d.names) := by
  induction d generalizing names all with
  | single operand ih => exact ih names begins
  | more run op atLevel operand runTokens operandTokens =>
    rw [Derivation.names, internAll_append] at begins ⊢
    have before := (begins_internAll (internAll names run.names) operand.names).trans begins
    change Pair.tokens names (Phrase.join run.phrase op operand.phrase).pairs = _
    rw [Phrase.pairs_join]
    refine tokens_append (runTokens names before) ?_
    exact tokens_cons_of_ok (token_operator _ op) (operandTokens _ begins)
  | plain primary ih => exact ih names begins
  | negated primary ih => exact tokens_cons_of_ok rfl (ih names begins)
  | number literal wf => exact tokens_operand rfl (operand_number wf names)
  | name letters wf => exact tokens_operand rfl (operand_variableName begins)
  | group inner ih => exact tokens_operand rfl (operand_expression (ih names begins))
  | call function argument ih =>
    exact tokens_operand rfl (operand_functionCall function (ih names begins))
  | log base value baseTokens valueTokens =>
    rw [Derivation.names, internAll_append] at begins ⊢
    have before := (begins_internAll (internAll names base.names) value.names).trans begins
    exact tokens_operand rfl
      (operand_logarithmCall (baseTokens names before) (valueTokens _ begins))

end Tokens

theorem climb_phrase (d : Derivation (.run .sum)) (text : List Char) :
    Pair.climb [.node .expression text d.phrase.pairs, .node .endOfInput [] []] =
      .ok (.ofPhrase d.phrase) := by
  have names : internAll [] d.names = d.phrase.names := by
    rw [internAll_nil, Phrase.names, Derivation.occurrences_phrase]
  have begins : internAll [] d.names <+: d.phrase.names := by
    exact names ▸ List.prefix_rfl
  have read := tokens_phrase d [] begins
  rw [names] at read
  rw [Pair.climb, read]
  change (climbOperand [] (d.tokens d.phrase.names) >>= _) = _
  rw [d.climb_tokens, Formula.ofPhrase, Derivation.tree_phrase]
  rfl

theorem variableNames_phrase {l : Layer} (d : Derivation l) :
    Pair.variableNames d.phrase.pairs = d.names := by
  have operator (op : Operator) : Pair.variableNames [.ofOperator op] = [] := by
    cases op <;> rfl
  induction d with
  | single operand ih => exact ih
  | more run op atLevel operand runNames operandNames =>
    change Pair.variableNames (Phrase.join run.phrase op operand.phrase).pairs = _
    rw [Phrase.pairs_join, Pair.variableNames_append, Pair.variableNames_cons, operator, runNames,
      operandNames]
    rfl
  | plain primary ih => exact ih
  | negated primary ih => exact ih
  | number literal wf => rfl
  | name letters wf => rfl
  | group inner ih => exact (Pair.variableNames_node (by decide) _ _).trans ih
  | call function argument ih =>
    refine (Pair.variableNames_node (by decide) _ _).trans ?_
    rw [Pair.variableNames_cons]
    exact (Pair.variableNames_node (by decide) _ _).trans ih
  | log base value baseNames valueNames =>
    refine (Pair.variableNames_node (by decide) _ _).trans ?_
    rw [Pair.variableNames_cons, Pair.variableNames_node (by decide),
      Pair.variableNames_node (by decide)]
    exact congrArg₂ _ baseNames valueNames

end FormulaNumerics.Syntax

namespace FormulaNumerics.Formula

open Syntax

theorem exists_derivation_of_emits {text : List Char} {pairs : List Pair}
    (emits : EmitsWhole text pairs) : ∃ d : Derivation (.run .sum), d.text = text ∧
      Pair.climb pairs = .ok (ofPhrase d.phrase) ∧ Pair.variableNames pairs = d.names := by
  obtain ⟨p, wf, spelled, rfl⟩ := (emitsWhole_iff text pairs).mp emits
  obtain ⟨d, rfl⟩ := Derivation.exists_of_phrase p wf
  refine ⟨d, d.text_phrase.symm.trans spelled, climb_phrase d text, ?_⟩
  rw [Pair.variableNames_cons, Pair.variableNames_node (by decide), variableNames_phrase]
  exact List.append_nil _

theorem climb_of_emits {text : List Char} {pairs : List Pair} (emits : EmitsWhole text pairs) :
    ∃ p : Phrase, p.WellFormed ∧ p.text = text ∧ Pair.climb pairs = .ok (ofPhrase p) ∧
      (Pair.variableNames pairs).eraseDups = p.names := by
  obtain ⟨d, spelled, climbed, names⟩ := exists_derivation_of_emits emits
  refine ⟨d.phrase, d.wellFormed_phrase, d.text_phrase.trans spelled, climbed, ?_⟩
  rw [names, Phrase.names, Derivation.occurrences_phrase]

theorem parse_of_emits {s : String} {pairs : List Pair}
    (emits : EmitsWhole (Text.strip s.toList) pairs)
    (shallow : peak 0 (Text.strip s.toList) ≤ maxNesting) :
    ∃ f : Formula, Pair.climb pairs = .ok f ∧ parse s = .ok f ∧
      namesIn s = .ok (Pair.variableNames pairs).eraseDups := by
  obtain ⟨p, wf, spelled, climbed, names⟩ := climb_of_emits emits
  have read : Phrase.parse s = .ok p :=
    (parseStripped_eq_ok_iff _ p).mpr ⟨shallow, wf, spelled⟩
  refine ⟨ofPhrase p, climbed, ?_, ?_⟩
  · rw [parse, read]
  · rw [namesIn, read, names]

theorem exists_emits {s : String} {f : Formula} (accepted : parse s = .ok f) :
    ∃ pairs : List Pair, EmitsWhole (Text.strip s.toList) pairs ∧ Pair.climb pairs = .ok f := by
  obtain ⟨p, -, shallow, wf, spelled⟩ := (parse_eq_ok_iff s f).mp accepted
  have emits := (emitsWhole_iff (Text.strip s.toList) _).mpr ⟨p, wf, spelled, rfl⟩
  obtain ⟨g, climbed, parsed, -⟩ := parse_of_emits emits shallow
  rw [accepted, Except.ok.injEq] at parsed
  exact ⟨_, emits, parsed ▸ climbed⟩

theorem overNested_or_unmatched {s : String} {fault : Fault Float}
    (refused : parse s = .error fault) :
    maxNesting < peak 0 (Text.strip s.toList) ∨
      ∀ pairs : List Pair, ¬ EmitsWhole (Text.strip s.toList) pairs := by
  by_contra matched
  simp only [not_or, Nat.not_lt, not_forall, not_not] at matched
  obtain ⟨shallow, pairs, emits⟩ := matched
  obtain ⟨f, -, parsed, -⟩ := parse_of_emits emits shallow
  rw [refused] at parsed
  cases parsed

theorem slots_suffice {α : Type} {f : Formula} (within : f.root.Within f.names.length)
    {answer : String → Option α} {found : List α} (resolved : resolve answer f.names = .ok found) :
    f.root.Within found.length := by
  rwa [length_of_resolve resolved]

theorem evaluate_ne_missingSlot {f : Formula} (within : f.root.Within f.names.length)
    (v : Valuation) (index : Nat) : f.evaluate v ≠ .error (.missingSlot index) := by
  cases first : f.names.find? (fun name => (v.get? name).isNone) with
  | some name =>
    rw [evaluate_of_undefined first]
    intro missing
    cases missing
  | none => exact (calculated_of_defined within first).ne_missingSlot index

theorem reading_never_breaks (s : String) :
    (∀ pairs : List Pair, EmitsWhole (Text.strip s.toList) pairs →
      ∃ f : Formula, Pair.climb pairs = .ok f ∧
        (peak 0 (Text.strip s.toList) ≤ maxNesting → parse s = .ok f ∧
          namesIn s = .ok (Pair.variableNames pairs).eraseDups)) ∧
    (∀ fault : Fault Float, parse s = .error fault →
      maxNesting < peak 0 (Text.strip s.toList) ∨
        ∀ pairs : List Pair, ¬ EmitsWhole (Text.strip s.toList) pairs) ∧
    ∀ f : Formula, parse s = .ok f →
      (∃ pairs : List Pair, EmitsWhole (Text.strip s.toList) pairs ∧ Pair.climb pairs = .ok f) ∧
      (∀ (v : Valuation) (slots : List Float), resolve v.get? f.names = .ok slots →
        f.root.Within slots.length) ∧
      (∀ (v : Valuation) (index : Nat), f.evaluate v ≠ .error (.missingSlot index)) ∧
      (∀ (answer : String → Option Source) (table : List Source),
        resolve answer f.names = .ok table → f.root.Within table.length) ∧
      ∀ c : Curve, Curve.ofFormula f = .ok c → c.body.Within 1 ∧
        ∀ (x : Float) (index : Nat), c.value x ≠ .error (.missingSlot index) := by
  refine ⟨?_, fun fault => overNested_or_unmatched, ?_⟩
  · intro pairs emits
    obtain ⟨p, -, -, climbed, -⟩ := climb_of_emits emits
    refine ⟨ofPhrase p, climbed, fun shallow => ?_⟩
    obtain ⟨f, climbed', read⟩ := parse_of_emits emits shallow
    rw [climbed, Except.ok.injEq] at climbed'
    exact climbed' ▸ read
  · intro f accepted
    have within := within_of_parse accepted
    refine ⟨exists_emits accepted, fun v slots => slots_suffice within,
      evaluate_ne_missingSlot within, fun answer table => slots_suffice within, ?_⟩
    intro c built
    have bodyWithin := Curve.within_of_ofFormula within built
    exact ⟨bodyWithin, fun x => (Curve.calculated_value bodyWithin x).ne_missingSlot⟩

end FormulaNumerics.Formula
