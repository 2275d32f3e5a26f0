import FormulaNumerics.Proofs.Syntax.Language

set_option autoImplicit false

namespace FormulaNumerics.Syntax

def operatorEntries : List Expectation :=
  [.plus, .minus, .times, .over, .caret]

def primaryEntries : List Expectation :=
  [.logarithm, .functionName, .number, .variableName]

def OpensCall (letters : List Char) : Prop :=
  letters = ['l', 'o', 'g'] ∨ ∃ f : NamedFunction, letters = f.name.toList

def Primary.EndsBefore (next : Option Char) : Primary → Prop
  | .number literal =>
    ∀ c ∈ next, c.isDigit = false ∧ (literal.pointed = false → c ≠ '.')
  | .name letters =>
    ∀ c ∈ next, Text.isAlphabetic c = false ∧ (OpensCall letters → c ≠ '(')
  | .group _ => True
  | .call _ _ => True
  | .log _ _ => True

def Operand.EndsBefore (next : Option Char) : Operand → Prop
  | .plain primary => primary.EndsBefore next
  | .negated primary => primary.EndsBefore next

def lastOperand (first : Operand) : List (Operator × Operand) → Operand
  | [] => first
  | (_, operand) :: rest => lastOperand operand rest

def Phrase.last : Phrase → Operand
  | .mk first rest => lastOperand first rest

structure Complete (p : Phrase) (next : Option Char) : Prop where
  wellFormed : p.WellFormed
  endsBefore : p.last.EndsBefore next
  noOperator : ∀ op : Operator, next ≠ some op.symbol

-- What stands before a phrase in parentheses, and the character that closes the phrase.
inductive Opening : List Char → Char → Prop where
  | group : Opening ['('] ')'
  | call (f : NamedFunction) : Opening (f.name.toList ++ ['(']) ')'
  | base : Opening ['l', 'o', 'g', '('] ','
  | value {b : Phrase} (wf : b.WellFormed) : Opening (['l', 'o', 'g', '('] ++ b.text ++ [',']) ')'

def OpensPrimary (c : Char) : Prop :=
  c.isDigit = true ∨ c = '.' ∨ Text.isAlphabetic c = true ∨ c = '('

-- Reading gets stuck behind `before`, where the `entries` are looked for. A `point` that begins no
-- number may still follow; the character behind that is `next`.
inductive Snag : Nonterminal → (before point : List Char) → (next : Option Char) →
    (entries : List Expectation) → Prop where
  | nothing {next : Option Char} (unfit : ∀ c ∈ next, ¬ OpensPrimary c) :
      Snag .primary [] [] next primaryEntries
  | lonePoint {next : Option Char} (noDigit : ∀ c ∈ next, c.isDigit = false) :
      Snag .primary [] ['.'] next primaryEntries
  | inside {opening before point : List Char} {closer : Char} {next : Option Char}
      {entries : List Expectation} (opens : Opening opening closer)
      (snag : Snag .phrase before point next entries) :
      Snag .primary (opening ++ before) point next entries
  | unclosed {opening : List Char} {closer : Char} {p : Phrase} {next : Option Char}
      (opens : Opening opening closer) (complete : Complete p next) (isOpen : next ≠ some closer) :
      Snag .primary (opening ++ p.text) [] next operatorEntries
  | unsigned {point : List Char} {next : Option Char} {entries : List Expectation}
      (noSign : point = [] → next ≠ some '-') (snag : Snag .primary [] point next entries) :
      Snag .operand [] point next (.negation :: entries)
  | signed {before point : List Char} {next : Option Char} {entries : List Expectation}
      (snag : Snag .primary before point next entries) :
      Snag .operand ('-' :: before) point next entries
  | plain {before point : List Char} {next : Option Char} {entries : List Expectation}
      (begun : before ≠ []) (snag : Snag .primary before point next entries) :
      Snag .operand before point next entries
  | empty {point : List Char} {next : Option Char} {entries : List Expectation}
      (snag : Snag .operand [] point next entries) : Snag .phrase [] point next [.expression]
  | first {before point : List Char} {next : Option Char} {entries : List Expectation}
      (begun : before ≠ []) (snag : Snag .operand before point next entries) :
      Snag .phrase before point next entries
  | later {p : Phrase} (wf : p.WellFormed) (op : Operator) {before point : List Char}
      {next : Option Char} {entries : List Expectation}
      (snag : Snag .operand before point next entries) :
      Snag .phrase (p.text ++ op.symbol :: before) point next entries

inductive Halt : (before point : List Char) → (next : Option Char) →
    (entries : List Expectation) → Prop where
  | inside {before point : List Char} {next : Option Char} {entries : List Expectation}
      (snag : Snag .phrase before point next entries) : Halt before point next entries
  | behind {p : Phrase} {next : Option Char} (complete : Complete p next) (more : next ≠ none) :
      Halt p.text [] next (operatorEntries ++ [.endOfInput])

theorem lastOperand_concat (first : Operand) (rest : List (Operator × Operand)) (op : Operator)
    (o : Operand) : lastOperand first (rest ++ [(op, o)]) = o := by
  induction rest generalizing first with
  | nil => rfl
  | cons entry rest ih => exact ih entry.2

@[simp] theorem Phrase.last_join (p : Phrase) (op : Operator) (o : Operand) :
    (p.join op (.mk o [])).last = o := by
  obtain ⟨first, rest⟩ := p
  exact lastOperand_concat first rest op o

theorem Primary.endsBefore_stop {c : Char} (stop : c ∈ operandStops) (q : Primary) :
    q.EndsBefore (some c) := by
  obtain ⟨noDigit, noLetter, noPoint, noParenthesis⟩ := operandStops_spec stop
  cases q with
  | number literal =>
    rintro c' ⟨⟩
    exact ⟨noDigit, fun _ => noPoint⟩
  | name letters =>
    rintro c' ⟨⟩
    exact ⟨noLetter, fun _ => noParenthesis⟩
  | group inner => trivial
  | call function argument => trivial
  | log base value => trivial

theorem Operand.endsBefore_stop {c : Char} (stop : c ∈ operandStops) (o : Operand) :
    o.EndsBefore (some c) := by
  cases o with
  | plain q => exact q.endsBefore_stop stop
  | negated q => exact q.endsBefore_stop stop

theorem Snag.entries_ne_nil {n : Nonterminal} {before point : List Char} {next : Option Char}
    {entries : List Expectation} (snag : Snag n before point next entries) : entries ≠ [] := by
  induction snag with
  | nothing => exact List.cons_ne_nil _ _
  | lonePoint => exact List.cons_ne_nil _ _
  | unclosed => exact List.cons_ne_nil _ _
  | unsigned => exact List.cons_ne_nil _ _
  | empty => exact List.cons_ne_nil _ _
  | inside opens snag ih => exact ih
  | signed snag ih => exact ih
  | plain begun snag ih => exact ih
  | first begun snag ih => exact ih
  | later wf op snag ih => exact ih

section Completion

def closers : List Char :=
  ['1', ',', ')']

theorem isDigit_one : ∀ c ∈ ['1'], c.isDigit = true := by
  intro c member
  rw [List.mem_singleton.mp member]
  decide

theorem Opening.completes {opening : List Char} {closer : Char} (opens : Opening opening closer) :
    ∃ closing : List Char, closing ⊆ closers ∧ ∀ e : List Char, Derives .phrase e →
      Derives .primary (opening ++ e ++ closing) := by
  have one : Derives .phrase ['1'] :=
    .single (.plain (.number (.whole (by decide) isDigit_one)))
  cases opens with
  | group =>
    refine ⟨[')'], by simp [closers], ?_⟩
    intro e derives
    simpa using Derives.group derives
  | call f =>
    refine ⟨[')'], by simp [closers], ?_⟩
    intro e derives
    simpa using Derives.call f derives
  | base =>
    refine ⟨[',', '1', ')'], by simp [closers], ?_⟩
    intro e derives
    simpa using Derives.log derives one
  | value wf =>
    refine ⟨[')'], by simp [closers], ?_⟩
    intro e derives
    simpa using Derives.log (derives_phrase _ wf) derives

theorem Snag.completes {n : Nonterminal} {before point : List Char} {next : Option Char}
    {entries : List Expectation} (snag : Snag n before point next entries) :
    ∃ rest : List Char, rest ⊆ closers ∧ Derives n (before ++ point ++ rest) := by
  induction snag with
  | nothing => exact ⟨['1'], by simp [closers], .number (.whole (by decide) isDigit_one)⟩
  | lonePoint => exact ⟨['1'], by simp [closers], .number (.fraction (by decide) isDigit_one)⟩
  | inside opens snag ih =>
    obtain ⟨rest, restPlain, derives⟩ := ih
    obtain ⟨closing, closingPlain, closes⟩ := opens.completes
    refine ⟨rest ++ closing, List.append_subset.mpr ⟨restPlain, closingPlain⟩, ?_⟩
    simpa using closes _ derives
  | unclosed opens complete isOpen =>
    obtain ⟨closing, closingPlain, closes⟩ := opens.completes
    have derives := closes _ (derives_phrase _ complete.wellFormed)
    exact ⟨closing, closingPlain, by simpa using derives⟩
  | unsigned noSign snag ih =>
    obtain ⟨rest, plain, derives⟩ := ih
    exact ⟨rest, plain, .plain derives⟩
  | signed snag ih =>
    obtain ⟨rest, plain, derives⟩ := ih
    exact ⟨rest, plain, .negated derives⟩
  | plain begun snag ih =>
    obtain ⟨rest, plain, derives⟩ := ih
    exact ⟨rest, plain, .plain derives⟩
  | empty snag ih =>
    obtain ⟨rest, plain, derives⟩ := ih
    exact ⟨rest, plain, .single derives⟩
  | first begun snag ih =>
    obtain ⟨rest, plain, derives⟩ := ih
    exact ⟨rest, plain, .single derives⟩
  | later wf op snag ih =>
    obtain ⟨rest, plain, derives⟩ := ih
    exact ⟨rest, plain, by simpa using Derives.binary op (derives_phrase _ wf) derives⟩

theorem Halt.completes {before point : List Char} {next : Option Char}
    {entries : List Expectation} (halt : Halt before point next entries) :
    ∃ rest : List Char, rest ⊆ closers ∧ Derives .phrase (before ++ point ++ rest) := by
  cases halt with
  | inside snag => exact snag.completes
  | behind complete more =>
    exact ⟨[], by simp, by simpa using derives_phrase _ complete.wellFormed⟩

end Completion

section Scanning

-- A text that has been read as a whole, in front of a character that does not belong to it.
def Ended : Nonterminal → List Char → Option Char → Prop
  | .phrase, text, next => ∃ p : Phrase, p.text = text ∧ Complete p next
  | .operand, text, next => ∃ o : Operand, o.text = text ∧ o.WellFormed ∧ o.EndsBefore next
  | .primary, text, next => ∃ q : Primary, q.text = text ∧ q.WellFormed ∧ q.EndsBefore next

def Snagged (n : Nonterminal) (text : List Char) : Prop :=
  ∃ (before point rest : List Char) (entries : List Expectation),
    text = before ++ point ++ rest ∧ Snag n before point rest.head? entries

def Scanned (n : Nonterminal) (text : List Char) : Prop :=
  (∃ read rest : List Char, text = read ++ rest ∧ Ended n read rest.head?) ∨ Snagged n text

theorem exists_span (belongs : Char → Bool) (text : List Char) :
    ∃ found rest : List Char, text = found ++ rest ∧ (∀ c ∈ found, belongs c = true) ∧
      ∀ c ∈ rest.head?, belongs c = false := by
  refine ⟨text.takeWhile belongs, text.dropWhile belongs, List.takeWhile_append_dropWhile.symm,
    fun c member => List.mem_takeWhile_imp member, ?_⟩
  intro c first
  have stops := List.head?_dropWhile_not belongs text
  rw [Option.mem_def.mp first] at stops
  simpa using stops

theorem exists_nonempty_span {belongs : Char → Bool} {c : Char} (belongsFirst : belongs c = true)
    (after : List Char) :
    ∃ found rest : List Char, c :: after = found ++ rest ∧ found ≠ [] ∧
      (∀ c ∈ found, belongs c = true) ∧ ∀ c ∈ rest.head?, belongs c = false := by
  obtain ⟨found, rest, rfl, inside, ends⟩ := exists_span belongs after
  exact ⟨c :: found, rest, rfl, List.cons_ne_nil c found,
    List.forall_mem_cons.mpr ⟨belongsFirst, inside⟩, ends⟩

theorem scanned_digits {whole rest : List Char} (nonempty : whole ≠ [])
    (digits : ∀ c ∈ whole, c.isDigit = true) (ends : ∀ c ∈ rest.head?, c.isDigit = false) :
    Scanned .primary (whole ++ rest) := by
  by_cases point : rest.head? = some '.'
  · obtain ⟨after, rfl⟩ := List.head?_eq_some_iff.mp point
    obtain ⟨fraction, rest, rfl, fractionDigits, fractionEnds⟩ := exists_span Char.isDigit after
    refine .inl ⟨whole ++ '.' :: fraction, rest, by simp, .number ⟨whole, true, fraction⟩, rfl,
      ⟨digits, fractionDigits, by simp, .inl nonempty⟩, ?_⟩
    intro c first
    exact ⟨fractionEnds c first, by simp⟩
  · refine .inl ⟨whole, rest, rfl, .number ⟨whole, false, []⟩, by simp [Primary.text, Literal.text],
      ⟨digits, by simp, by simp, .inl nonempty⟩, ?_⟩
    intro c first
    refine ⟨ends c first, ?_⟩
    rintro - rfl
    exact point first

theorem scanned_point (after : List Char) : Scanned .primary ('.' :: after) := by
  obtain ⟨fraction, rest, rfl, digits, ends⟩ := exists_span Char.isDigit after
  by_cases empty : fraction = []
  · subst empty
    exact .inr ⟨[], ['.'], rest, primaryEntries, rfl, .lonePoint ends⟩
  · refine .inl ⟨'.' :: fraction, rest, rfl, .number ⟨[], true, fraction⟩, rfl,
      ⟨by simp, digits, by simp, .inr empty⟩, ?_⟩
    intro c first
    exact ⟨ends c first, by simp⟩

theorem snagged_or_closed {opening text : List Char} {closer : Char}
    (opens : Opening opening closer) (inner : Scanned .phrase text) :
    (∃ (p : Phrase) (rest : List Char), p.WellFormed ∧ text = p.text ++ closer :: rest) ∨
      Snagged .primary (opening ++ text) := by
  obtain ⟨read, rest, rfl, p, rfl, complete⟩ | ⟨before, point, rest, entries, rfl, snag⟩ := inner
  · by_cases closed : rest.head? = some closer
    · obtain ⟨after, rfl⟩ := List.head?_eq_some_iff.mp closed
      exact .inl ⟨p, after, complete.wellFormed, rfl⟩
    · exact .inr ⟨opening ++ p.text, [], rest, operatorEntries, by simp,
        .unclosed opens complete closed⟩
  · exact .inr ⟨opening ++ before, point, rest, entries, by simp, .inside opens snag⟩

theorem scanned_group {after : List Char} (inner : Scanned .phrase after) :
    Scanned .primary ('(' :: after) := by
  obtain ⟨p, rest, wf, rfl⟩ | snagged := snagged_or_closed .group inner
  · exact .inl ⟨(Primary.group p).text, rest, by simp [Primary.text], .group p, rfl, wf, trivial⟩
  · exact .inr snagged

theorem scanned_call (f : NamedFunction) {after : List Char} (inner : Scanned .phrase after) :
    Scanned .primary (f.name.toList ++ '(' :: after) := by
  obtain ⟨p, rest, wf, rfl⟩ | snagged := snagged_or_closed (.call f) inner
  · exact .inl ⟨(Primary.call f p).text, rest, by simp [Primary.text], .call f p, rfl, wf, trivial⟩
  · exact .inr (by simpa using snagged)

theorem scanned_log {after : List Char}
    (inner : ∀ text : List Char, text.length ≤ after.length → Scanned .phrase text) :
    Scanned .primary (['l', 'o', 'g'] ++ '(' :: after) := by
  obtain ⟨b, behindBase, baseFormed, rfl⟩ | snagged :=
    snagged_or_closed .base (inner after (Nat.le_refl _))
  · have shorter : behindBase.length ≤ (b.text ++ ',' :: behindBase).length := by
      simp only [List.length_append, List.length_cons]
      omega
    obtain ⟨v, rest, valueFormed, rfl⟩ | snagged :=
      snagged_or_closed (.value baseFormed) (inner behindBase shorter)
    · exact .inl ⟨(Primary.log b v).text, rest, by simp [Primary.text], .log b v, rfl,
        ⟨baseFormed, valueFormed⟩, trivial⟩
    · exact .inr (by simpa using snagged)
  · exact .inr snagged

theorem scanned_letters {letters rest : List Char} (isName : IsName letters)
    (ends : ∀ c ∈ rest.head?, Text.isAlphabetic c = false)
    (inner : ∀ text : List Char, text.length < rest.length → Scanned .phrase text) :
    Scanned .primary (letters ++ rest) := by
  by_cases opens : OpensCall letters ∧ rest.head? = some '('
  · obtain ⟨word, isOpen⟩ := opens
    obtain ⟨after, rfl⟩ := List.head?_eq_some_iff.mp isOpen
    obtain rfl | ⟨f, rfl⟩ := word
    · exact scanned_log fun text shorter => inner text (by simp only [List.length_cons]; omega)
    · exact scanned_call f (inner after (by simp))
  · refine .inl ⟨letters, rest, rfl, .name letters, rfl, isName, ?_⟩
    intro c first
    refine ⟨ends c first, ?_⟩
    rintro word rfl
    exact opens ⟨word, first⟩

theorem scanned_primary (text : List Char)
    (inner : ∀ shorter : List Char, shorter.length < text.length → Scanned .phrase shorter) :
    Scanned .primary text := by
  by_cases opens : ∃ c ∈ text.head?, OpensPrimary c
  · obtain ⟨c, first, digit | rfl | letter | rfl⟩ := opens
    · obtain ⟨after, rfl⟩ := List.head?_eq_some_iff.mp first
      obtain ⟨whole, rest, split, nonempty, digits, ends⟩ := exists_nonempty_span digit after
      rw [split]
      exact scanned_digits nonempty digits ends
    · obtain ⟨after, rfl⟩ := List.head?_eq_some_iff.mp first
      exact scanned_point after
    · obtain ⟨after, rfl⟩ := List.head?_eq_some_iff.mp first
      obtain ⟨letters, rest, split, nonempty, alphabetic, ends⟩ :=
        exists_nonempty_span letter after
      rw [split] at inner ⊢
      refine scanned_letters ⟨nonempty, alphabetic⟩ ends fun shorter h => inner shorter ?_
      simp only [List.length_append]
      omega
    · obtain ⟨after, rfl⟩ := List.head?_eq_some_iff.mp first
      exact scanned_group (inner after (by simp))
  · refine .inr ⟨[], [], text, primaryEntries, rfl, .nothing ?_⟩
    intro c first opensHere
    exact opens ⟨c, first, opensHere⟩

theorem scanned_operand (text : List Char)
    (inner : ∀ shorter : List Char, shorter.length < text.length → Scanned .phrase shorter) :
    Scanned .operand text := by
  by_cases sign : text.head? = some '-'
  · obtain ⟨after, rfl⟩ := List.head?_eq_some_iff.mp sign
    obtain ⟨read, rest, rfl, q, rfl, wf, ends⟩ | ⟨before, point, rest, entries, rfl, snag⟩ :=
      scanned_primary after fun shorter h => inner shorter (by simp only [List.length_cons]; omega)
    · exact .inl ⟨'-' :: q.text, rest, rfl, .negated q, rfl, wf, ends⟩
    · exact .inr ⟨'-' :: before, point, rest, entries, rfl, .signed snag⟩
  · obtain ⟨read, rest, rfl, q, rfl, wf, ends⟩ | ⟨before, point, rest, entries, rfl, snag⟩ :=
      scanned_primary text inner
    · exact .inl ⟨q.text, rest, rfl, .plain q, rfl, wf, ends⟩
    · by_cases begun : before = []
      · subst begun
        refine .inr ⟨[], point, rest, .negation :: entries, rfl, .unsigned ?_ snag⟩
        rintro rfl
        exact sign
      · exact .inr ⟨before, point, rest, entries, rfl, .plain begun snag⟩

-- The phrase so far grows by an operand for each operator, until there is none.
theorem scanned_rest (rest : List Char)
    (inner : ∀ shorter : List Char, shorter.length < rest.length → Scanned .phrase shorter)
    {p : Phrase} (wf : p.WellFormed) (ends : p.last.EndsBefore rest.head?) :
    Scanned .phrase (p.text ++ rest) := by
  induction length : rest.length using Nat.strong_induction_on generalizing rest p with
  | _ count ih =>
    subst length
    by_cases operates : ∃ op : Operator, rest.head? = some op.symbol
    · obtain ⟨op, first⟩ := operates
      obtain ⟨after, rfl⟩ := List.head?_eq_some_iff.mp first
      obtain ⟨read, rest, rfl, o, rfl, formed, endsLater⟩ |
          ⟨before, point, rest, entries, rfl, snag⟩ :=
        scanned_operand after fun shorter h => inner shorter (Nat.lt_succ_of_lt h)
      · have fewer : rest.length < (op.symbol :: (o.text ++ rest)).length := by
          simp only [List.length_cons, List.length_append]
          omega
        have longer := ih rest.length fewer rest
          (fun shorter h => inner shorter (Nat.lt_trans h fewer)) (p := p.join op (.mk o []))
          ((p.wellFormed_join _ op).mpr ⟨wf, formed, trivial⟩) (by simpa using endsLater) rfl
        simpa [Phrase.text, restText] using longer
      · exact .inr ⟨p.text ++ op.symbol :: before, point, rest, entries, by simp,
          .later wf op snag⟩
    · refine .inl ⟨p.text, rest, rfl, p, rfl, wf, ends, ?_⟩
      intro op first
      exact operates ⟨op, first⟩

theorem scanned_phrase (text : List Char) : Scanned .phrase text := by
  have inner (shorter : List Char) (_ : shorter.length < text.length) : Scanned .phrase shorter :=
    scanned_phrase shorter
  obtain ⟨read, rest, split, o, rfl, wf, ends⟩ | ⟨before, point, rest, entries, split, snag⟩ :=
    scanned_operand text inner
  · have within : rest.length ≤ text.length := by simp [split]
    have all := scanned_rest rest (fun shorter h => inner shorter (Nat.lt_of_lt_of_le h within))
      (p := .mk o []) ⟨wf, trivial⟩ ends
    rw [split]
    simpa [Phrase.text, restText] using all
  · by_cases begun : before = []
    · subst begun
      exact .inr ⟨[], point, rest, [.expression], split, .empty snag⟩
    · exact .inr ⟨before, point, rest, entries, split, .first begun snag⟩
termination_by text.length

theorem spells_or_halts (text : List Char) : (∃ p : Phrase, p.WellFormed ∧ p.text = text) ∨
    ∃ (before point rest : List Char) (entries : List Expectation),
      text = before ++ point ++ rest ∧ Halt before point rest.head? entries := by
  obtain ⟨read, rest, rfl, p, rfl, complete⟩ | ⟨before, point, rest, entries, rfl, snag⟩ :=
    scanned_phrase text
  · cases rest with
    | nil => exact .inl ⟨p, complete.wellFormed, by simp⟩
    | cons c after =>
      exact .inr ⟨p.text, [], c :: after, _, by simp, .behind complete (by simp)⟩
  · exact .inr ⟨before, point, rest, entries, rfl, .inside snag⟩

end Scanning

end FormulaNumerics.Syntax
