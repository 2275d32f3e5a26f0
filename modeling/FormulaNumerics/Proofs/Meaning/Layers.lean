import FormulaNumerics.Proofs.Syntax.Language

set_option autoImplicit false

namespace FormulaNumerics.Syntax

inductive Layer where
  | run (level : Level)
  | unary
  | primary

def Layer.below : Level → Layer
  | .sum => .run .product
  | .product => .run .power
  | .power => .unary

-- A run `x (op x)*` is built from the left, so that each operator has all before it on its left.
inductive Derivation : Layer → Type where
  | single {level : Level} (operand : Derivation (.below level)) : Derivation (.run level)
  | more {level : Level} (run : Derivation (.run level)) (op : Operator)
      (atLevel : op.level = level) (operand : Derivation (.below level)) : Derivation (.run level)
  | plain (primary : Derivation .primary) : Derivation .unary
  | negated (primary : Derivation .primary) : Derivation .unary
  | number (literal : Literal) (wf : literal.WellFormed) : Derivation .primary
  | name (letters : List Char) (wf : IsName letters) : Derivation .primary
  | group (inner : Derivation (.run .sum)) : Derivation .primary
  | call (function : NamedFunction) (argument : Derivation (.run .sum)) : Derivation .primary
  | log (base value : Derivation (.run .sum)) : Derivation .primary

def Layer.Flat : Layer → Type
  | .run _ => Phrase
  | .unary => Operand
  | .primary => Primary

def Layer.Flat.phrase : {l : Layer} → l.Flat → Phrase
  | .run _, p => p
  | .unary, o => .mk o []
  | .primary, q => .mk (.plain q) []

namespace Derivation

def text : {l : Layer} → Derivation l → List Char
  | _, single operand => operand.text
  | _, more run op _ operand => run.text ++ op.symbol :: operand.text
  | _, plain primary => primary.text
  | _, negated primary => '-' :: primary.text
  | _, number literal _ => literal.text
  | _, name letters _ => letters
  | _, group inner => '(' :: (inner.text ++ [')'])
  | _, call function argument => function.name.toList ++ '(' :: (argument.text ++ [')'])
  | _, log base value => ['l', 'o', 'g', '('] ++ (base.text ++ ',' :: (value.text ++ [')']))

def names : {l : Layer} → Derivation l → List String
  | _, single operand => operand.names
  | _, more run _ _ operand => run.names ++ operand.names
  | _, plain primary => primary.names
  | _, negated primary => primary.names
  | _, number _ _ => []
  | _, name letters _ => [String.ofList letters]
  | _, group inner => inner.names
  | _, call _ argument => argument.names
  | _, log base value => base.names ++ value.names

def flat : {l : Layer} → Derivation l → l.Flat
  | _, single operand => operand.flat.phrase
  | _, more run op _ operand => Phrase.join run.flat op operand.flat.phrase
  | _, plain primary => Operand.plain primary.flat
  | _, negated primary => Operand.negated primary.flat
  | _, number literal _ => Primary.number literal
  | _, name letters _ => Primary.name letters
  | _, group inner => Primary.group inner.flat
  | _, call function argument => Primary.call function argument.flat
  | _, log base value => Primary.log base.flat value.flat

def phrase {l : Layer} (d : Derivation l) : Phrase :=
  d.flat.phrase

theorem wellFormed_phrase {l : Layer} (d : Derivation l) : d.phrase.WellFormed := by
  induction d with
  | single operand ih => exact ih
  | more run op _ operand runFormed operandFormed =>
    exact (Phrase.wellFormed_join _ _ _).mpr ⟨runFormed, operandFormed⟩
  | plain primary ih => exact ih
  | negated primary ih => exact ih
  | number literal wf => exact ⟨wf, trivial⟩
  | name letters wf => exact ⟨wf, trivial⟩
  | group inner ih => exact ⟨ih, trivial⟩
  | call function argument ih => exact ⟨ih, trivial⟩
  | log base value baseFormed valueFormed => exact ⟨⟨baseFormed, valueFormed⟩, trivial⟩

theorem text_phrase {l : Layer} (d : Derivation l) : d.phrase.text = d.text := by
  induction d with
  | single operand ih => exact ih
  | more run op _ operand runText operandText =>
    change (Phrase.join run.phrase op operand.phrase).text = _
    rw [Phrase.text_join, runText, operandText, text]
  | plain primary ih => exact ih
  | negated primary ih => exact congrArg ('-' :: ·) ih
  | number literal wf => exact List.append_nil _
  | name letters wf => exact List.append_nil _
  | group inner ih =>
    change (Primary.text (.group inner.phrase)) ++ [] = _
    rw [List.append_nil, Primary.text, ih, text]
  | call function argument ih =>
    change (Primary.text (.call function argument.phrase)) ++ [] = _
    rw [List.append_nil, Primary.text, ih, text]
  | log base value baseText valueText =>
    change (Primary.text (.log base.phrase value.phrase)) ++ [] = _
    rw [List.append_nil, Primary.text, baseText, valueText, text]

end Derivation

theorem pushRestNames_concat (seen : List String) (left right : List (Operator × Operand)) :
    pushRestNames seen (left ++ right) = pushRestNames (pushRestNames seen left) right := by
  induction left generalizing seen with
  | nil => rfl
  | cons entry left ih => simp [pushRestNames, ih]

theorem Phrase.pushNames_join (seen : List String) (left right : Phrase) (op : Operator) :
    (left.join op right).pushNames seen = right.pushNames (left.pushNames seen) := by
  obtain ⟨first, rest⟩ := left
  obtain ⟨first', rest'⟩ := right
  simp [join, Phrase.pushNames, pushRestNames_concat, pushRestNames]

namespace Derivation

theorem pushNames_phrase {l : Layer} (d : Derivation l) (seen : List String) :
    d.phrase.pushNames seen = d.names.reverse ++ seen := by
  induction d generalizing seen with
  | single operand ih => exact ih seen
  | more run op _ operand runNames operandNames =>
    change (Phrase.join run.phrase op operand.phrase).pushNames seen = _
    rw [Phrase.pushNames_join, runNames, operandNames, names, List.reverse_append,
      List.append_assoc]
  | plain primary ih => exact ih seen
  | negated primary ih => exact ih seen
  | number literal wf => rfl
  | name letters wf => rfl
  | group inner ih => exact ih seen
  | call function argument ih => exact ih seen
  | log base value baseNames valueNames =>
    change value.phrase.pushNames (base.phrase.pushNames seen) = _
    rw [baseNames, valueNames, names, List.reverse_append, List.append_assoc]

theorem occurrences_phrase {l : Layer} (d : Derivation l) : d.phrase.occurrences = d.names := by
  rw [Phrase.occurrences, pushNames_phrase, List.append_nil, List.reverse_reverse]

-- An operator that binds tighter than the run goes into the last operand of the run.
theorem exists_join_below {level : Level} {op : Operator} {last : Phrase}
    (inside : ∀ x : Derivation (.below level), ∃ y : Derivation (.below level),
      y.phrase = x.phrase.join op last) (d : Derivation (.run level)) :
    ∃ e : Derivation (.run level), e.phrase = d.phrase.join op last := by
  cases d with
  | single x =>
    obtain ⟨y, joined⟩ := inside x
    exact ⟨single y, joined⟩
  | more run op' atLevel x =>
    obtain ⟨y, joined⟩ := inside x
    refine ⟨more run op' atLevel y, ?_⟩
    change run.phrase.join op' y.phrase = (run.phrase.join op' x.phrase).join op last
    rw [joined, Phrase.join_assoc]

theorem exists_join (d : Derivation (.run .sum)) (op : Operator) (u : Derivation .unary) :
    ∃ e : Derivation (.run .sum), e.phrase = d.phrase.join op u.phrase := by
  cases level : op.level with
  | sum => exact ⟨more d op level (single (single u)), rfl⟩
  | product =>
    refine exists_join_below ?_ d
    exact fun product => ⟨more product op level (single u), rfl⟩
  | power =>
    refine exists_join_below ?_ d
    refine fun product => exists_join_below ?_ product
    exact fun power => ⟨more power op level u, rfl⟩

mutual

theorem exists_of_phrase (p : Phrase) (wf : p.WellFormed) :
    ∃ d : Derivation (.run .sum), d.phrase = p := by
  match p with
  | .mk first rest =>
    obtain ⟨u, rfl⟩ := exists_of_operand first wf.1
    exact exists_of_rest rest wf.2 (single (single (single u))) rfl

theorem exists_of_operand (o : Operand) (wf : o.WellFormed) :
    ∃ d : Derivation .unary, d.flat = o := by
  match o with
  | .plain q =>
    obtain ⟨d, rfl⟩ := exists_of_primary q wf
    exact ⟨plain d, rfl⟩
  | .negated q =>
    obtain ⟨d, rfl⟩ := exists_of_primary q wf
    exact ⟨negated d, rfl⟩

theorem exists_of_primary (q : Primary) (wf : q.WellFormed) :
    ∃ d : Derivation .primary, d.flat = q := by
  match q with
  | .number l => exact ⟨number l wf, rfl⟩
  | .name letters => exact ⟨name letters wf, rfl⟩
  | .group p =>
    obtain ⟨d, rfl⟩ := exists_of_phrase p wf
    exact ⟨group d, rfl⟩
  | .call f p =>
    obtain ⟨d, rfl⟩ := exists_of_phrase p wf
    exact ⟨call f d, rfl⟩
  | .log b v =>
    obtain ⟨base, rfl⟩ := exists_of_phrase b wf.1
    obtain ⟨value, rfl⟩ := exists_of_phrase v wf.2
    exact ⟨log base value, rfl⟩

theorem exists_of_rest (rest : List (Operator × Operand)) (wf : RestWellFormed rest)
    {first : Operand} {before : List (Operator × Operand)} (d : Derivation (.run .sum))
    (read : d.phrase = .mk first before) :
    ∃ e : Derivation (.run .sum), e.phrase = .mk first (before ++ rest) := by
  match rest with
  | [] => exact ⟨d, by simpa using read⟩
  | (op, o) :: rest =>
    obtain ⟨u, rfl⟩ := exists_of_operand o wf.1
    obtain ⟨joined, joins⟩ := exists_join d op u
    rw [read] at joins
    obtain ⟨e, extends'⟩ := exists_of_rest rest wf.2 joined joins
    exact ⟨e, by simpa using extends'⟩

end

end Derivation

end FormulaNumerics.Syntax
