import FormulaNumerics.Formula.Basic
import FormulaNumerics.Proofs.Syntax.Parentheses
import FormulaNumerics.Proofs.Syntax.Recognition

set_option autoImplicit false

namespace FormulaNumerics.Syntax

inductive IsNumber : List Char → Prop where
  | whole {digits : List Char} (nonempty : digits ≠ []) (isDigit : ∀ c ∈ digits, c.isDigit = true) :
      IsNumber digits
  | pointed {digits fraction : List Char} (nonempty : digits ≠ [])
      (isDigit : ∀ c ∈ digits, c.isDigit = true) (isFraction : ∀ c ∈ fraction, c.isDigit = true) :
      IsNumber (digits ++ '.' :: fraction)
  | fraction {digits : List Char} (nonempty : digits ≠ [])
      (isDigit : ∀ c ∈ digits, c.isDigit = true) : IsNumber ('.' :: digits)

inductive Nonterminal where
  | phrase
  | operand
  | primary

inductive Derives : Nonterminal → List Char → Prop where
  | single {o : List Char} (operand : Derives .operand o) : Derives .phrase o
  | binary {e o : List Char} (op : Operator) (left : Derives .phrase e)
      (right : Derives .operand o) : Derives .phrase (e ++ op.symbol :: o)
  | plain {q : List Char} (primary : Derives .primary q) : Derives .operand q
  | negated {q : List Char} (primary : Derives .primary q) : Derives .operand ('-' :: q)
  | number {digits : List Char} (isNumber : IsNumber digits) : Derives .primary digits
  | name {letters : List Char} (isName : IsName letters) : Derives .primary letters
  | group {e : List Char} (inner : Derives .phrase e) : Derives .primary ('(' :: (e ++ [')']))
  | call {e : List Char} (f : NamedFunction) (argument : Derives .phrase e) :
      Derives .primary (f.name.toList ++ '(' :: (e ++ [')']))
  | log {b v : List Char} (base : Derives .phrase b) (value : Derives .phrase v) :
      Derives .primary (['l', 'o', 'g', '('] ++ (b ++ ',' :: (v ++ [')'])))

theorem isNumber_iff (text : List Char) :
    IsNumber text ↔ ∃ l : Literal, l.WellFormed ∧ l.text = text := by
  constructor
  · intro isNumber
    cases isNumber with
    | whole nonempty isDigit =>
      exact ⟨⟨text, false, []⟩, ⟨isDigit, by simp, by simp, .inl nonempty⟩, by simp [Literal.text]⟩
    | @pointed digits fraction nonempty isDigit isFraction =>
      exact ⟨⟨digits, true, fraction⟩, ⟨isDigit, isFraction, by simp, .inl nonempty⟩, rfl⟩
    | @fraction digits nonempty isDigit =>
      exact ⟨⟨[], true, digits⟩, ⟨by simp, isDigit, by simp, .inr nonempty⟩, rfl⟩
  · rintro ⟨⟨whole, pointed, fraction⟩, ⟨wholeDigits, fractionDigits, unpointed, someDigit⟩, rfl⟩
    simp only at wholeDigits fractionDigits unpointed someDigit
    by_cases empty : whole = []
    · subst empty
      have nonempty : fraction ≠ [] := by simpa using someDigit
      cases pointed with
      | true => exact .fraction nonempty fractionDigits
      | false => exact absurd (unpointed rfl) nonempty
    · cases pointed with
      | true => exact .pointed empty wholeDigits fractionDigits
      | false => simpa [Literal.text] using IsNumber.whole empty wholeDigits

def Nonterminal.Spells : Nonterminal → List Char → Prop
  | .phrase, text => ∃ p : Phrase, p.WellFormed ∧ p.text = text
  | .operand, text => ∃ o : Operand, o.WellFormed ∧ o.text = text
  | .primary, text => ∃ q : Primary, q.WellFormed ∧ q.text = text

theorem Derives.spells {n : Nonterminal} {text : List Char} (h : Derives n text) :
    n.Spells text := by
  induction h with
  | single _ ih =>
    obtain ⟨o, formed, rfl⟩ := ih
    exact ⟨.mk o [], ⟨formed, trivial⟩, by simp [Phrase.text, restText]⟩
  | binary op _ _ leftSpells rightSpells =>
    obtain ⟨p, leftFormed, rfl⟩ := leftSpells
    obtain ⟨o, rightFormed, rfl⟩ := rightSpells
    refine ⟨p.join op (.mk o []), ?_, ?_⟩
    · exact (p.wellFormed_join _ op).mpr ⟨leftFormed, rightFormed, trivial⟩
    · simp [Phrase.text, restText]
  | plain _ ih =>
    obtain ⟨q, formed, rfl⟩ := ih
    exact ⟨.plain q, formed, rfl⟩
  | negated _ ih =>
    obtain ⟨q, formed, rfl⟩ := ih
    exact ⟨.negated q, formed, rfl⟩
  | number isNumber =>
    obtain ⟨l, formed, rfl⟩ := (isNumber_iff _).mp isNumber
    exact ⟨.number l, formed, rfl⟩
  | name isName => exact ⟨.name _, isName, rfl⟩
  | group _ ih =>
    obtain ⟨p, formed, rfl⟩ := ih
    exact ⟨.group p, formed, rfl⟩
  | call f _ ih =>
    obtain ⟨p, formed, rfl⟩ := ih
    exact ⟨.call f p, formed, rfl⟩
  | log _ _ baseSpells valueSpells =>
    obtain ⟨b, baseFormed, rfl⟩ := baseSpells
    obtain ⟨v, valueFormed, rfl⟩ := valueSpells
    exact ⟨.log b v, ⟨baseFormed, valueFormed⟩, rfl⟩

mutual

theorem derives_phrase (p : Phrase) (wf : p.WellFormed) : Derives .phrase p.text := by
  match p with
  | .mk first others => exact derives_rest others wf.2 (.single (derives_operand first wf.1))

theorem derives_operand (o : Operand) (wf : o.WellFormed) : Derives .operand o.text := by
  match o with
  | .plain q => exact .plain (derives_primary q wf)
  | .negated q => exact .negated (derives_primary q wf)

theorem derives_primary (q : Primary) (wf : q.WellFormed) : Derives .primary q.text := by
  match q with
  | .number l => exact .number ((isNumber_iff _).mpr ⟨l, wf, rfl⟩)
  | .name letters => exact .name wf
  | .group p => exact .group (derives_phrase p wf)
  | .call f p => exact .call f (derives_phrase p wf)
  | .log b v => exact .log (derives_phrase b wf.1) (derives_phrase v wf.2)

-- The operands behind the first join the phrase before them one at a time.
theorem derives_rest (others : List (Operator × Operand)) (wf : RestWellFormed others)
    {before : List Char} (left : Derives .phrase before) :
    Derives .phrase (before ++ restText others) := by
  match others with
  | [] => simpa [restText] using left
  | (op, o) :: others =>
    have longer := derives_rest others wf.2 (.binary op left (derives_operand o wf.1))
    simpa [restText] using longer

end

theorem derives_iff (text : List Char) :
    Derives .phrase text ↔ ∃ p : Phrase, p.WellFormed ∧ p.text = text := by
  constructor
  · exact fun derives => derives.spells
  · rintro ⟨p, wf, rfl⟩
    exact derives_phrase p wf

theorem parseStripped_eq_ok_iff (text : List Char) (p : Phrase) :
    parseStripped text = .ok p ↔ peak 0 text ≤ maxNesting ∧ p.WellFormed ∧ p.text = text := by
  have scan := overNested?_eq_none_iff 0 text (Nat.zero_le maxNesting)
  unfold parseStripped
  constructor
  · intro accepted
    cases scanned : overNested? maxNesting 0 0 text with
    | some position => simp [scanned] at accepted
    | none =>
      rw [scanned] at accepted
      exact ⟨scan.mp scanned, text_of_recognize accepted⟩
  · rintro ⟨shallow, wf, rfl⟩
    rw [scan.mpr shallow]
    rw [Phrase.peak_text wf] at shallow
    exact recognize_text wf shallow

end FormulaNumerics.Syntax

namespace FormulaNumerics.Formula

open Syntax

theorem parse_eq_ok_iff (s : String) (f : Formula) :
    parse s = .ok f ↔ ∃ p : Phrase, f = ofPhrase p ∧ peak 0 (Text.strip s.toList) ≤ maxNesting ∧
      p.WellFormed ∧ p.text = Text.strip s.toList := by
  unfold parse Phrase.parse
  constructor
  · intro accepted
    cases read : parseStripped (Text.strip s.toList) with
    | error e => simp [read] at accepted
    | ok p =>
      rw [read, Except.ok.injEq] at accepted
      exact ⟨p, accepted.symm, (parseStripped_eq_ok_iff _ _).mp read⟩
  · rintro ⟨p, rfl, read⟩
    rw [(parseStripped_eq_ok_iff _ _).mpr read]

theorem parse_overNested {s : String} (deep : maxNesting < peak 0 (Text.strip s.toList)) :
    ∃ before after : List Char, Text.strip s.toList = before ++ '(' :: after ∧
      peak 0 before ≤ maxNesting ∧ maxNesting < peak 0 (before ++ ['(']) ∧
      parse s = .error (.malformed ⟨before.length + 1, .nestedTooDeeply⟩) := by
  cases scanned : overNested? maxNesting 0 0 (Text.strip s.toList) with
  | none =>
    have shallow := (overNested?_eq_none_iff 0 _ (Nat.zero_le maxNesting)).mp scanned
    omega
  | some position =>
    obtain ⟨before, after, split, rfl, within, beyond⟩ :=
      overNested?_eq_some (Nat.zero_le maxNesting) scanned
    refine ⟨before, after, split, within, beyond, ?_⟩
    simp [parse, Phrase.parse, parseStripped, scanned]

theorem accepts_iff_derives (s : String) :
    ((∃ f : Formula, parse s = .ok f) ↔
      peak 0 (Text.strip s.toList) ≤ maxNesting ∧ Derives .phrase (Text.strip s.toList)) ∧
    (maxNesting < peak 0 (Text.strip s.toList) →
      ∃ before after : List Char, Text.strip s.toList = before ++ '(' :: after ∧
        peak 0 before ≤ maxNesting ∧ maxNesting < peak 0 (before ++ ['(']) ∧
        parse s = .error (.malformed ⟨before.length + 1, .nestedTooDeeply⟩)) := by
  refine ⟨?_, parse_overNested⟩
  constructor
  · rintro ⟨f, accepted⟩
    obtain ⟨p, -, shallow, wf, spelled⟩ := (parse_eq_ok_iff s f).mp accepted
    exact ⟨shallow, (derives_iff _).mpr ⟨p, wf, spelled⟩⟩
  · rintro ⟨shallow, derives⟩
    obtain ⟨p, wf, spelled⟩ := (derives_iff _).mp derives
    exact ⟨ofPhrase p, (parse_eq_ok_iff s _).mpr ⟨p, rfl, shallow, wf, spelled⟩⟩

end FormulaNumerics.Formula
