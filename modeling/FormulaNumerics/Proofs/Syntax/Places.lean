import FormulaNumerics.Proofs.Syntax.Halting

set_option autoImplicit false

namespace FormulaNumerics.Syntax

-- A minus sign is an operator between operands or the sign before one.
inductive Place where
  | opening
  | infixed
  | signed
  | ended
  deriving DecidableEq

namespace Place

def next (place : Place) (c : Char) : Place :=
  if c = '(' ∨ c = ',' then .opening
  else if c = '-' ∧ (place = .opening ∨ place = .infixed) then .signed
  else if c ∈ Operator.all.map Operator.symbol then .infixed
  else .ended

def after (place : Place) (text : List Char) : Place :=
  text.foldl next place

def behind (text : List Char) : Place :=
  opening.after text

def entries : Place → List Expectation
  | .opening => [.expression]
  | .infixed => .negation :: primaryEntries
  | .signed => primaryEntries
  | .ended => operatorEntries

@[simp] theorem after_nil (place : Place) : place.after [] = place := rfl

@[simp] theorem after_cons (place : Place) (c : Char) (text : List Char) :
    place.after (c :: text) = (place.next c).after text := rfl

@[simp] theorem after_append (place : Place) (left right : List Char) :
    place.after (left ++ right) = (place.after left).after right :=
  List.foldl_append

theorem next_symbol (op : Operator) : ended.next op.symbol = .infixed := by
  cases op <;> rfl

-- Characters of numbers, names and closing parentheses stand in operands only.
theorem next_of_token (place : Place) {c : Char}
    (token : c.isDigit = true ∨ Text.isAlphabetic c = true ∨ c = '.' ∨ c = ')') :
    place.next c = .ended := by
  have others : ('(' :: ',' :: Operator.all.map Operator.symbol).all (fun c =>
      !c.isDigit && !Text.isAlphabetic c && c != '.' && c != ')') = true := by decide
  have apart : c ∉ '(' :: ',' :: Operator.all.map Operator.symbol := by
    intro member
    have neither := List.all_eq_true.mp others c member
    simp only [Bool.and_eq_true, Bool.not_eq_true', bne_iff_ne] at neither
    obtain ⟨⟨⟨noDigit, noLetter⟩, noPoint⟩, noParenthesis⟩ := neither
    obtain digit | letter | isPoint | isParenthesis := token
    · simp [digit] at noDigit
    · simp [letter] at noLetter
    · exact noPoint isPoint
    · exact noParenthesis isParenthesis
  simp only [List.mem_cons, not_or] at apart
  obtain ⟨notOpen, notComma, notSymbol⟩ := apart
  have notMinus : c ≠ '-' := by
    rintro rfl
    exact notSymbol (by decide)
  simp [next, notOpen, notComma, notMinus, notSymbol]

@[simp] theorem next_close (place : Place) : place.next ')' = .ended :=
  place.next_of_token (by simp)

theorem after_concat (place : Place) (text : List Char) {c : Char}
    (token : c.isDigit = true ∨ Text.isAlphabetic c = true ∨ c = '.' ∨ c = ')') :
    place.after (text ++ [c]) = .ended := by
  rw [after_append, after_cons, after_nil]
  exact next_of_token _ token

theorem after_of_tokens (place : Place) {text : List Char} (nonempty : text ≠ [])
    (tokens : ∀ c ∈ text, c.isDigit = true ∨ Text.isAlphabetic c = true ∨ c = '.' ∨ c = ')') :
    place.after text = .ended := by
  obtain ⟨before, last, rfl⟩ := (List.eq_nil_or_concat' text).resolve_left nonempty
  exact place.after_concat before (tokens last (by simp))

end Place

def Nonterminal.start : Nonterminal → Place
  | .phrase => .opening
  | .operand => .infixed
  | .primary => .signed

def EndsInLonePoint (text : List Char) : Prop :=
  ∃ before : List Char, text = before ++ ['.'] ∧ ∀ c ∈ before.getLast?, c.isDigit = false

theorem not_endsInLonePoint_of_last {text : List Char} {c : Char} (last : text.getLast? = some c)
    (other : c ≠ '.') : ¬ EndsInLonePoint text := by
  rintro ⟨before, rfl, -⟩
  rw [List.getLast?_concat, Option.some.injEq] at last
  exact other last.symm

theorem not_endsInLonePoint_of_forall (before : List Char) {text : List Char}
    (nonempty : text ≠ []) (others : ∀ c ∈ text, c ≠ '.') :
    ¬ EndsInLonePoint (before ++ text) := by
  obtain ⟨start, last, rfl⟩ := (List.eq_nil_or_concat' text).resolve_left nonempty
  exact not_endsInLonePoint_of_last (c := last) (by simp) (others last (by simp))

section Derivations

theorem IsNumber.after {text : List Char} (isNumber : IsNumber text) (place : Place) :
    place.after text = .ended := by
  cases isNumber with
  | whole nonempty isDigit =>
    exact place.after_of_tokens nonempty fun c member => .inl (isDigit c member)
  | pointed nonempty isDigit isFraction =>
    refine place.after_of_tokens (by simp) ?_
    intro c member
    simp only [List.mem_append, List.mem_cons] at member
    obtain inWhole | isPoint | inFraction := member
    · exact .inl (isDigit c inWhole)
    · exact .inr (.inr (.inl isPoint))
    · exact .inl (isFraction c inFraction)
  | fraction nonempty isDigit =>
    rw [Place.after_cons]
    exact Place.after_of_tokens _ nonempty fun c member => .inl (isDigit c member)

theorem Derives.after {n : Nonterminal} {text : List Char} (derives : Derives n text)
    (place : Place) : place.after text = .ended := by
  induction derives generalizing place with
  | single _ ih => exact ih place
  | binary op _ _ _ ih => simpa using ih _
  | plain _ ih => exact ih place
  | negated _ ih => exact ih _
  | number isNumber => exact isNumber.after place
  | name isName =>
    exact place.after_of_tokens isName.nonempty fun c member =>
      .inr (.inl (isName.alphabetic c member))
  | group => simp
  | call => simp
  | log => simp

theorem Derives.count_eq {n : Nonterminal} {text : List Char} (derives : Derives n text) :
    text.count '(' = text.count ')' := by
  have tokens {text : List Char} (plain : ∀ c ∈ text, c ≠ '(' ∧ c ≠ ')') :
      text.count '(' = text.count ')' := by
    rw [List.count_eq_zero_of_not_mem fun member => (plain _ member).1 rfl,
      List.count_eq_zero_of_not_mem fun member => (plain _ member).2 rfl]
  induction derives with
  | single _ ih => exact ih
  | binary op _ _ left right =>
    have symbol : op.symbol ≠ '(' ∧ op.symbol ≠ ')' := by cases op <;> decide
    simp [symbol, left, right]
  | plain _ ih => exact ih
  | negated _ ih => simpa [List.count_cons] using ih
  | number isNumber =>
    obtain ⟨l, formed, rfl⟩ := (isNumber_iff _).mp isNumber
    exact tokens formed.plain
  | name isName => exact tokens isName.plain
  | group _ ih => simp [ih]
  | call f _ ih =>
    have name := tokens (isName_function f).plain
    simp [name, ih]
  | log _ _ base value =>
    simp only [List.count_append, List.count_cons, base, value]
    simp
    omega

theorem IsNumber.not_endsInLonePoint {text : List Char} (isNumber : IsNumber text)
    (before : List Char) : ¬ EndsInLonePoint (before ++ text) := by
  have digits {digits : List Char} (isDigit : ∀ c ∈ digits, c.isDigit = true) :
      ∀ c ∈ digits, c ≠ '.' := by
    rintro c member rfl
    exact absurd (isDigit '.' member) (by decide)
  cases isNumber with
  | whole nonempty isDigit => exact not_endsInLonePoint_of_forall before nonempty (digits isDigit)
  | @pointed whole fraction nonempty isDigit isFraction =>
    by_cases empty : fraction = []
    · subst empty
      rintro ⟨front, same, noDigit⟩
      rw [← List.append_assoc] at same
      obtain rfl := (List.append_singleton_inj.mp same).1
      obtain ⟨start, last, rfl⟩ := (List.eq_nil_or_concat' whole).resolve_left nonempty
      have digit := isDigit last (by simp)
      rw [noDigit last (by simp)] at digit
      cases digit
    · have last :=
        not_endsInLonePoint_of_forall (before ++ whole ++ ['.']) empty (digits isFraction)
      simpa using last
  | @fraction fraction nonempty isDigit =>
    have last := not_endsInLonePoint_of_forall (before ++ ['.']) nonempty (digits isDigit)
    simpa using last

theorem Derives.not_endsInLonePoint {n : Nonterminal} {text : List Char}
    (derives : Derives n text) (before : List Char) : ¬ EndsInLonePoint (before ++ text) := by
  induction derives generalizing before with
  | single _ ih => exact ih before
  | @binary e o op _ _ _ ih => simpa using ih (before ++ e ++ [op.symbol])
  | plain _ ih => exact ih before
  | negated _ ih => simpa using ih (before ++ ['-'])
  | number isNumber => exact isNumber.not_endsInLonePoint before
  | name isName =>
    refine not_endsInLonePoint_of_forall before isName.nonempty ?_
    rintro c member rfl
    exact absurd (isName.alphabetic '.' member) (by decide)
  | group => exact not_endsInLonePoint_of_last (c := ')') (by simp [List.getLast?_cons]) (by decide)
  | call => exact not_endsInLonePoint_of_last (c := ')') (by simp [List.getLast?_cons]) (by decide)
  | log => exact not_endsInLonePoint_of_last (c := ')') (by simp [List.getLast?_cons]) (by decide)

end Derivations

section Snags

theorem Opening.after {opening : List Char} {closer : Char} (opens : Opening opening closer)
    (place : Place) : place.after opening = .opening := by
  cases opens with
  | group => rfl
  | call f => simp [Place.next]
  | base => simp [Place.next]
  | value wf => simp [Place.next]

theorem Opening.count_lt {opening : List Char} {closer : Char} (opens : Opening opening closer) :
    opening.count ')' < opening.count '(' := by
  cases opens with
  | group => decide
  | call f => cases f <;> decide
  | base => decide
  | value wf =>
    have base := (derives_phrase _ wf).count_eq
    simp [base]

-- Only a minus sign is read in another way behind an operator than behind a sign.
theorem Place.after_signed {text : List Char} (begun : text ≠ [])
    (noMinus : text.head? ≠ some '-') :
    signed.after text = infixed.after text := by
  cases text with
  | nil => exact absurd rfl begun
  | cons c text =>
    have other : c ≠ '-' := by simpa using noMinus
    simp [next, other]

theorem Place.after_infixed {text : List Char} (begun : text ≠ []) :
    infixed.after text = opening.after text := by
  cases text with
  | nil => exact absurd rfl begun
  | cons c text => simp [next]

theorem Snag.entries_eq {n : Nonterminal} {before point : List Char} {next : Option Char}
    {entries : List Expectation} (snag : Snag n before point next entries) :
    entries = (n.start.after before).entries := by
  induction snag with
  | nothing => rfl
  | lonePoint => rfl
  | inside opens snag ih => rw [Place.after_append, opens.after]; exact ih
  | unclosed opens complete isOpen =>
    rw [Place.after_append, (derives_phrase _ complete.wellFormed).after]
    rfl
  | unsigned noSign snag ih => rw [ih]; rfl
  | signed snag ih => exact ih
  | plain begun snag ih =>
    -- Behind a sign no other sign may stand, but here none stands anyway.
    have noMinus := snag.head?_ne_minus begun []
    rw [List.append_nil] at noMinus
    rw [ih]
    exact congrArg Place.entries (Place.after_signed begun noMinus)
  | empty snag ih => rfl
  | first begun snag ih =>
    rw [ih]
    exact congrArg Place.entries (Place.after_infixed begun)
  | later wf op snag ih =>
    rw [Place.after_append, (derives_phrase _ wf).after, Place.after_cons, Place.next_symbol]
    exact ih

theorem Snag.count_le {n : Nonterminal} {before point : List Char} {next : Option Char}
    {entries : List Expectation} (snag : Snag n before point next entries) :
    before.count ')' ≤ before.count '(' ∧
      (entries = operatorEntries → before.count ')' < before.count '(') := by
  induction snag with
  | nothing => exact ⟨Nat.le_refl _, by decide⟩
  | lonePoint => exact ⟨Nat.le_refl _, by decide⟩
  | inside opens snag ih =>
    have more := opens.count_lt
    simp only [List.count_append]
    omega
  | unclosed opens complete isOpen =>
    have more := opens.count_lt
    have same := (derives_phrase _ complete.wellFormed).count_eq
    simp only [List.count_append]
    omega
  | unsigned noSign snag ih => exact ⟨Nat.le_refl _, by simp [operatorEntries]⟩
  | signed snag ih => simpa using ih
  | plain begun snag ih => exact ih
  | empty snag ih => exact ⟨Nat.le_refl _, by simp [operatorEntries]⟩
  | first begun snag ih => exact ih
  | @later p wf op before point next entries snag ih =>
    have same := (derives_phrase _ wf).count_eq
    have symbol : op.symbol ≠ '(' ∧ op.symbol ≠ ')' := by cases op <;> decide
    simp only [List.count_append, List.count_cons_of_ne symbol.1, List.count_cons_of_ne symbol.2]
    refine ⟨by omega, fun complete => ?_⟩
    have more := ih.2 complete
    omega

theorem Derives.ends_in_operand {text : List Char} (derives : Derives .phrase text) :
    ∃ front operand : List Char, Derives .operand operand ∧ text = front ++ operand := by
  cases derives with
  | single operand => exact ⟨[], text, operand, rfl⟩
  | @binary e o op left right => exact ⟨e ++ [op.symbol], o, right, by simp⟩

theorem Snag.ends_in_operand {n : Nonterminal} {before point : List Char} {next : Option Char}
    {entries : List Expectation} (snag : Snag n before point next entries)
    (complete : entries = operatorEntries) :
    ∃ front operand : List Char, Derives .operand operand ∧ before = front ++ operand := by
  induction snag with
  | nothing => simp [primaryEntries, operatorEntries] at complete
  | lonePoint => simp [primaryEntries, operatorEntries] at complete
  | @inside opening before point closer next entries opens snag ih =>
    obtain ⟨front, operand, derives, rfl⟩ := ih complete
    exact ⟨opening ++ front, operand, derives, by simp⟩
  | @unclosed opening closer p next opens ends isOpen =>
    obtain ⟨front, operand, derives, split⟩ := (derives_phrase p ends.wellFormed).ends_in_operand
    exact ⟨opening ++ front, operand, derives, by simp [split]⟩
  | unsigned noSign snag ih => simp [operatorEntries] at complete
  | signed snag ih =>
    obtain ⟨front, operand, derives, rfl⟩ := ih complete
    exact ⟨'-' :: front, operand, derives, rfl⟩
  | plain begun snag ih => exact ih complete
  | empty snag ih => simp [operatorEntries] at complete
  | first begun snag ih => exact ih complete
  | @later p wf op before point next entries snag ih =>
    obtain ⟨front, operand, derives, rfl⟩ := ih complete
    exact ⟨p.text ++ op.symbol :: front, operand, derives, by simp⟩

end Snags

end FormulaNumerics.Syntax
