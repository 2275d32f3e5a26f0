import FormulaNumerics.Proofs.Syntax.Language

set_option autoImplicit false

namespace FormulaNumerics.Syntax

inductive PairRule where
  | expression
  | add
  | subtract
  | multiply
  | divide
  | power
  | negation
  | logarithmCall
  | functionCall
  | functionName
  | number
  | variableName
  | endOfInput
  deriving DecidableEq

def PairRule.ofOperator : Operator → PairRule
  | .add => .add
  | .subtract => .subtract
  | .multiply => .multiply
  | .divide => .divide
  | .power => .power

inductive Pair where
  | node (rule : PairRule) (text : List Char) (children : List Pair)

namespace Pair

def rule : Pair → PairRule
  | .node rule _ _ => rule

def text : Pair → List Char
  | .node _ text _ => text

def ofOperator (op : Operator) : Pair :=
  .node (.ofOperator op) [op.symbol] []

def sign : Pair :=
  .node .negation ['-'] []

mutual

def flatten : Pair → List Pair
  | .node rule text children => .node rule text children :: flattenAll children

def flattenAll : List Pair → List Pair
  | [] => []
  | pair :: rest => pair.flatten ++ flattenAll rest

end

def variableNames (pairs : List Pair) : List String :=
  ((flattenAll pairs).filter (·.rule = .variableName)).map fun pair => String.ofList pair.text

theorem flattenAll_append (left right : List Pair) :
    flattenAll (left ++ right) = flattenAll left ++ flattenAll right := by
  induction left with
  | nil => rfl
  | cons pair left ih => simp [flattenAll, ih]

theorem variableNames_append (left right : List Pair) :
    variableNames (left ++ right) = variableNames left ++ variableNames right := by
  simp [variableNames, flattenAll_append]

theorem variableNames_cons (pair : Pair) (rest : List Pair) :
    variableNames (pair :: rest) = variableNames [pair] ++ variableNames rest :=
  variableNames_append [pair] rest

theorem variableNames_node {rule : PairRule} (other : rule ≠ .variableName) (text : List Char)
    (children : List Pair) : variableNames [.node rule text children] = variableNames children := by
  simp [variableNames, flattenAll, flatten, Pair.rule, other]

end Pair

-- The alternatives are not tried in any order, so all that the grammar reports is among it.
inductive Emits : Nonterminal → List Char → List Pair → Prop where
  | single {o : List Char} {os : List Pair} (operand : Emits .operand o os) : Emits .phrase o os
  | binary {e o : List Char} {es os : List Pair} (op : Operator) (left : Emits .phrase e es)
      (right : Emits .operand o os) :
      Emits .phrase (e ++ op.symbol :: o) (es ++ .ofOperator op :: os)
  | plain {q : List Char} {qs : List Pair} (primary : Emits .primary q qs) : Emits .operand q qs
  | negated {q : List Char} {qs : List Pair} (primary : Emits .primary q qs) :
      Emits .operand ('-' :: q) (.sign :: qs)
  | number {digits : List Char} (isNumber : IsNumber digits) :
      Emits .primary digits [.node .number digits []]
  | name {letters : List Char} (isName : IsName letters) :
      Emits .primary letters [.node .variableName letters []]
  | group {e : List Char} {es : List Pair} (inner : Emits .phrase e es) :
      Emits .primary ('(' :: (e ++ [')'])) [.node .expression e es]
  | call {e : List Char} {es : List Pair} (f : NamedFunction) (argument : Emits .phrase e es) :
      Emits .primary (f.name.toList ++ '(' :: (e ++ [')']))
        [.node .functionCall (f.name.toList ++ '(' :: (e ++ [')']))
          [.node .functionName f.name.toList [], .node .expression e es]]
  | log {b v : List Char} {bs vs : List Pair} (base : Emits .phrase b bs)
      (value : Emits .phrase v vs) :
      Emits .primary (['l', 'o', 'g', '('] ++ (b ++ ',' :: (v ++ [')'])))
        [.node .logarithmCall (['l', 'o', 'g', '('] ++ (b ++ ',' :: (v ++ [')'])))
          [.node .expression b bs, .node .expression v vs]]

inductive EmitsWhole : List Char → List Pair → Prop where
  | mk {text : List Char} {es : List Pair} (phrase : Emits .phrase text es) :
      EmitsWhole text [.node .expression text es, .node .endOfInput [] []]

mutual

def Phrase.pairs : Phrase → List Pair
  | .mk first rest => first.pairs ++ restPairs rest

def Operand.pairs : Operand → List Pair
  | .plain primary => [primary.pair]
  | .negated primary => [.sign, primary.pair]

def Primary.pair : Primary → Pair
  | .number literal => .node .number literal.text []
  | .name letters => .node .variableName letters []
  | .group inner => .node .expression inner.text inner.pairs
  | .call function argument =>
    .node .functionCall (Primary.call function argument).text
      [.node .functionName function.name.toList [],
        .node .expression argument.text argument.pairs]
  | .log base value =>
    .node .logarithmCall (Primary.log base value).text
      [.node .expression base.text base.pairs, .node .expression value.text value.pairs]

def restPairs : List (Operator × Operand) → List Pair
  | [] => []
  | (op, operand) :: rest => .ofOperator op :: (operand.pairs ++ restPairs rest)

end

theorem restPairs_append (left right : List (Operator × Operand)) :
    restPairs (left ++ right) = restPairs left ++ restPairs right := by
  induction left with
  | nil => rfl
  | cons entry left ih => simp [restPairs, ih]

@[simp] theorem Phrase.pairs_join (left right : Phrase) (op : Operator) :
    (left.join op right).pairs = left.pairs ++ .ofOperator op :: right.pairs := by
  obtain ⟨first, rest⟩ := left
  obtain ⟨first', rest'⟩ := right
  simp [join, Phrase.pairs, restPairs_append, restPairs]

def Nonterminal.Reports : Nonterminal → List Char → List Pair → Prop
  | .phrase, text, pairs => ∃ p : Phrase, p.WellFormed ∧ p.text = text ∧ p.pairs = pairs
  | .operand, text, pairs => ∃ o : Operand, o.WellFormed ∧ o.text = text ∧ o.pairs = pairs
  | .primary, text, pairs => ∃ q : Primary, q.WellFormed ∧ q.text = text ∧ [q.pair] = pairs

theorem Emits.reports {n : Nonterminal} {text : List Char} {pairs : List Pair}
    (h : Emits n text pairs) : n.Reports text pairs := by
  induction h with
  | single _ ih =>
    obtain ⟨o, formed, rfl, rfl⟩ := ih
    exact ⟨.mk o [], ⟨formed, trivial⟩, by simp [Phrase.text, restText],
      by simp [Phrase.pairs, restPairs]⟩
  | binary op _ _ left right =>
    obtain ⟨p, leftFormed, rfl, rfl⟩ := left
    obtain ⟨o, rightFormed, rfl, rfl⟩ := right
    refine ⟨p.join op (.mk o []), ?_, ?_, ?_⟩
    · exact (p.wellFormed_join _ op).mpr ⟨leftFormed, rightFormed, trivial⟩
    · simp [Phrase.text, restText]
    · simp [Phrase.pairs, restPairs]
  | plain _ ih =>
    obtain ⟨q, formed, rfl, rfl⟩ := ih
    exact ⟨.plain q, formed, rfl, rfl⟩
  | negated _ ih =>
    obtain ⟨q, formed, rfl, rfl⟩ := ih
    exact ⟨.negated q, formed, rfl, rfl⟩
  | number isNumber =>
    obtain ⟨l, formed, rfl⟩ := (isNumber_iff _).mp isNumber
    exact ⟨.number l, formed, rfl, rfl⟩
  | name isName => exact ⟨.name _, isName, rfl, rfl⟩
  | group _ ih =>
    obtain ⟨p, formed, rfl, rfl⟩ := ih
    exact ⟨.group p, formed, rfl, rfl⟩
  | call f _ ih =>
    obtain ⟨p, formed, rfl, rfl⟩ := ih
    exact ⟨.call f p, formed, rfl, rfl⟩
  | log _ _ base value =>
    obtain ⟨b, baseFormed, rfl, rfl⟩ := base
    obtain ⟨v, valueFormed, rfl, rfl⟩ := value
    exact ⟨.log b v, ⟨baseFormed, valueFormed⟩, rfl, rfl⟩

mutual

theorem emits_phrase (p : Phrase) (wf : p.WellFormed) : Emits .phrase p.text p.pairs := by
  match p with
  | .mk first others => exact emits_rest others wf.2 (.single (emits_operand first wf.1))

theorem emits_operand (o : Operand) (wf : o.WellFormed) : Emits .operand o.text o.pairs := by
  match o with
  | .plain q => exact .plain (emits_primary q wf)
  | .negated q => exact .negated (emits_primary q wf)

theorem emits_primary (q : Primary) (wf : q.WellFormed) : Emits .primary q.text [q.pair] := by
  match q with
  | .number l => exact .number ((isNumber_iff _).mpr ⟨l, wf, rfl⟩)
  | .name letters => exact .name wf
  | .group p => exact .group (emits_phrase p wf)
  | .call f p => exact .call f (emits_phrase p wf)
  | .log b v => exact .log (emits_phrase b wf.1) (emits_phrase v wf.2)

theorem emits_rest (others : List (Operator × Operand)) (wf : RestWellFormed others)
    {before : List Char} {pairs : List Pair} (left : Emits .phrase before pairs) :
    Emits .phrase (before ++ restText others) (pairs ++ restPairs others) := by
  match others with
  | [] => simpa [restText, restPairs] using left
  | (op, o) :: others =>
    have longer := emits_rest others wf.2 (.binary op left (emits_operand o wf.1))
    simpa [restText, restPairs] using longer

end

theorem emitsWhole_iff (text : List Char) (pairs : List Pair) :
    EmitsWhole text pairs ↔ ∃ p : Phrase, p.WellFormed ∧ p.text = text ∧
      pairs = [.node .expression text p.pairs, .node .endOfInput [] []] := by
  constructor
  · rintro ⟨phrase⟩
    obtain ⟨p, wf, rfl, rfl⟩ := phrase.reports
    exact ⟨p, wf, rfl, rfl⟩
  · rintro ⟨p, wf, rfl, rfl⟩
    exact .mk (emits_phrase p wf)

end FormulaNumerics.Syntax
