import FormulaNumerics.Proofs.Syntax.Failure
import FormulaNumerics.Syntax.Parse

set_option autoImplicit false

namespace FormulaNumerics.Syntax

theorem Primary.length_text_pos {q : Primary} (wf : q.WellFormed) : 0 < q.text.length := by
  cases q with
  | number l =>
    obtain ⟨c, tail, spelled, -⟩ := Literal.WellFormed.head wf
    simp [Primary.text, spelled]
  | name letters => exact List.length_pos_iff.mpr (IsName.nonempty wf)
  | group p => simp [Primary.text]
  | call f p =>
    simp only [Primary.text, List.length_append, List.length_cons]
    omega
  | log b v => simp [Primary.text]

theorem Operand.length_text_pos {o : Operand} (wf : o.WellFormed) : 0 < o.text.length := by
  cases o with
  | plain q => exact Primary.length_text_pos wf
  | negated q => simp [Operand.text]

theorem lastOperand_endsBefore (first : Operand) (others : List (Operator × Operand))
    {rest : List Char} (ends : (lastOperand first others).EndsBefore rest.head?) :
    first.EndsBefore (restText others ++ rest).head? := by
  cases others with
  | nil => exact ends
  | cons entry others => exact first.endsBefore_stop (by cases entry.1 <;> decide)

theorem Operand.endsBefore_rounds (o : Operand) (others : List (Operator × Operand))
    (op : Operator) (after : List Char) :
    o.EndsBefore (restText others ++ op.symbol :: after).head? := by
  have stop : op.symbol ∈ operandStops := by cases op <;> decide
  exact lastOperand_endsBefore o others ((lastOperand o others).endsBefore_stop stop)

theorem Opening.closes {opening : List Char} {closer : Char} (opens : Opening opening closer) :
    closer ∈ phraseStops := by
  cases opens <;> decide

theorem Opening.head?_ne_minus {opening : List Char} {closer : Char}
    (opens : Opening opening closer) (after : List Char) :
    (opening ++ after).head? ≠ some '-' := by
  cases opens with
  | group => simp
  | call f => cases f <;> simp [NamedFunction.name]
  | base => simp
  | value wf => simp

theorem Opening.ne_nil {opening : List Char} {closer : Char} (opens : Opening opening closer) :
    opening ≠ [] := by
  cases opens <;> simp

theorem Opening.peak_le {opening : List Char} {closer : Char} (opens : Opening opening closer)
    (depth : Nat) (after : List Char) : peak (depth + 1) after ≤ peak depth (opening ++ after) := by
  have log (rest : List Char) :
      peak depth (['l', 'o', 'g', '('] ++ rest) = peak (depth + 1) rest := by
    change peak depth (['l', 'o', 'g'] ++ '(' :: rest) = _
    rw [peak_plain isName_log.plain, peak_open]
  cases opens with
  | group => exact Nat.le_of_eq (peak_open depth after).symm
  | call f =>
    rw [List.append_assoc, peak_plain (isName_function f).plain, List.singleton_append, peak_open]
  | base => exact Nat.le_of_eq (log after).symm
  | value wf =>
    have comma : peak (depth + 1) (',' :: after) = peak (depth + 1) after :=
      peak_of_ne (depth + 1) (by decide) (by decide) after
    rw [List.append_assoc, List.append_assoc, log, peak_phrase _ _ wf, List.singleton_append, comma]
    exact Nat.le_max_right _ _

theorem Opening.exists_levels {opening : List Char} {closer : Char}
    (opens : Opening opening closer) {depth levels : Nat} {before : List Char}
    (shallow : peak depth (opening ++ before) ≤ depth + levels) :
    ∃ below : Nat, levels = below + 1 ∧ peak (depth + 1) before ≤ depth + 1 + below := by
  have deeper := opens.peak_le depth before
  have bound := le_peak (depth + 1) before
  exact ⟨levels - 1, by omega, by omega⟩

namespace Grammar

open Rule Frontier

def entry (inner : Rule Phrase) : Rule (Operator × Operand) := do
  let op ← operator
  let next ← operand inner
  pure (op, next)

section Phrases

theorem leaves_entry {inner : Rule Phrase} (op : Operator) {o : Operand} {rest : List Char}
    (operandLeaves : (operand inner).Leaves AtMost o.text o rest Before) :
    (entry inner).Leaves AtMost (op.symbol :: o.text) (op, o) rest Before := by
  obtain ⟨entries, taken⟩ := takes_operator op (o.text ++ rest)
  exact taken.leaves.bind (operandLeaves.bind_pure _)

theorem complete_of_stop {p : Phrase} (wf : p.WellFormed) {c : Char} (stop : c ∈ phraseStops) :
    Complete p (some c) := by
  refine ⟨wf, p.last.endsBefore_stop (List.mem_append_left _ stop), ?_⟩
  rintro op same
  obtain rfl := Option.some.inj same
  revert stop
  cases op <;> decide

mutual

theorem leaves_phrase (fuel levels : Nat) (p : Phrase) (shallow : p.nesting ≤ levels)
    (short : p.text.length ≤ fuel) {rest : List Char} (complete : Complete p rest.head?) :
    (phrase fuel (levels + 1)).Leaves AtMost p.text p rest (Exactly operatorEntries) := by
  match p with
  | .mk first others =>
    obtain ⟨wf, ends, noOperator⟩ := complete
    simp only [Phrase.nesting, Nat.max_le] at shallow
    simp only [Phrase.text, List.length_append] at short
    have begun := Operand.length_text_pos wf.1
    have count := length_restText others
    have firstLeaves := leaves_operand fuel levels first wf.1 shallow.1 (by omega)
      (lastOperand_endsBefore first others ends)
    have othersLeave := leaves_others fuel levels first others wf.2 shallow.2 (by omega) fuel
      (by omega) ends noOperator
    exact (firstLeaves.bind (othersLeave.bind_pure _)).named _

theorem leaves_operand (fuel levels : Nat) (o : Operand) (wf : o.WellFormed)
    (shallow : o.nesting ≤ levels) (short : o.text.length ≤ fuel) {rest : List Char}
    (ends : o.EndsBefore rest.head?) :
    (operand (phrase fuel levels)).Leaves AtMost o.text o rest Before := by
  match o with
  | .plain q =>
    have primaryLeaves := leaves_primary fuel levels q wf shallow short ends
    have noSign : (q.text ++ rest).head? ≠ some '-' := by
      intro first
      obtain ⟨after, split⟩ := List.head?_eq_some_iff.mp first
      exact Primary.text_ne_minus wf rest ⟨after, split.symm⟩
    exact (takes_noSign noSign).leaves.bind (primaryLeaves.bind_pure _)
  | .negated q =>
    simp only [Operand.text, List.length_cons] at short
    have primaryLeaves := leaves_primary fuel levels q wf shallow (by omega) ends
    exact (takes_sign (q.text ++ rest)).leaves.bind (primaryLeaves.bind_pure _)

theorem leaves_primary (fuel levels : Nat) (q : Primary) (wf : q.WellFormed)
    (shallow : q.nesting ≤ levels) (short : q.text.length ≤ fuel) {rest : List Char}
    (ends : q.EndsBefore rest.head?) :
    (primary (phrase fuel levels)).Leaves AtMost q.text q rest Before := by
  match q, levels with
  | .number l, _ => exact leaves_number wf ends
  | .name letters, _ => exact leaves_name wf ends
  | .group p, levels + 1 =>
    simp only [Primary.text, List.length_cons, List.length_append] at short
    exact leaves_group (leaves_phrase fuel levels p (by simpa [Primary.nesting] using shallow)
      (by omega) (complete_of_stop wf (by decide)))
  | .call f p, levels + 1 =>
    simp only [Primary.text, List.length_cons, List.length_append] at short
    exact leaves_call f (leaves_phrase fuel levels p (by simpa [Primary.nesting] using shallow)
      (by omega) (complete_of_stop wf (by decide)))
  | .log b v, levels + 1 =>
    simp only [Primary.text, List.length_cons, List.length_append] at short
    simp only [Primary.nesting, Nat.add_le_add_iff_right, Nat.max_le] at shallow
    exact leaves_log
      (leaves_phrase fuel levels b shallow.1 (by omega) (complete_of_stop wf.1 (by decide)))
      (leaves_phrase fuel levels v shallow.2 (by omega) (complete_of_stop wf.2 (by decide)))

-- The last round fails at its operator, for which some fuel must be left.
theorem leaves_others (fuel levels : Nat) (first : Operand) (others : List (Operator × Operand))
    (wf : RestWellFormed others) (shallow : restNesting others ≤ levels)
    (short : (restText others).length ≤ fuel) (limit : Nat) (few : others.length < limit)
    {rest : List Char} (ends : (lastOperand first others).EndsBefore rest.head?)
    (noOperator : ∀ op : Operator, rest.head? ≠ some op.symbol) :
    (repeated limit (entry (phrase fuel levels))).Leaves Before (restText others) others rest
      (Exactly operatorEntries) := by
  match others, limit with
  | [], limit + 1 => exact leaves_repeated_nil (fails_operator noOperator).bind (by decide)
  | (op, o) :: others, limit + 1 =>
    simp only [restNesting, Nat.max_le] at shallow
    simp only [restText, List.length_cons, List.length_append] at short
    have operandLeaves := leaves_operand fuel levels o wf.1 shallow.1 (by omega)
      (lastOperand_endsBefore o others ends)
    have othersLeave := leaves_others fuel levels o others wf.2 shallow.2 (by omega) limit
      (by simpa using few) ends noOperator
    exact leaves_repeated_cons ((leaves_entry op operandLeaves).strengthen fun _ _ => Before.atMost)
      othersLeave

end

end Phrases

section Snags

-- Where nothing has been read the rule fails at once; otherwise it breaks off behind what has.
def Sticks {α : Type} (heads : List Char) (r : Rule α) (before : List Char)
    (entries : List Expectation) (rest : List Char) : Prop :=
  (before = [] → r.Fails rest entries) ∧ (before ≠ [] → r.Breaks AtMost heads before entries rest)

theorem Sticks.breaks {α : Type} {heads : List Char} {r : Rule α} {before : List Char}
    {entries : List Expectation} {rest : List Char} (h : Sticks heads r before entries rest)
    (nonempty : entries ≠ []) : r.Breaks Before heads before entries rest := by
  by_cases begun : before = []
  · subst begun
    exact (h.1 rfl).breaks nonempty
  · exact (h.2 begun).strengthen fun _ _ => Before.atMost

theorem sticks_of_breaks {α : Type} {heads : List Char} {r : Rule α} {before : List Char}
    {entries : List Expectation} {rest : List Char} (begun : before ≠ [])
    (h : r.Breaks AtMost heads before entries rest) : Sticks heads r before entries rest :=
  ⟨fun empty => absurd empty begun, fun _ => h⟩

theorem breaks_opening {opening : List Char} {closer : Char} (opens : Opening opening closer)
    {fuel levels depth : Nat} {before : List Char} {entries : List Expectation} {rest : List Char}
    (shallow : peak depth (opening ++ before) ≤ depth + (levels + 1))
    (short : (opening ++ before ++ rest).length ≤ fuel)
    (stuck : Stuck (phrase fuel (levels + 1)) closer before entries rest) :
    (primary (phrase fuel (levels + 1))).Breaks AtMost ['('] (opening ++ before) entries rest := by
  cases opens with
  | group => exact breaks_group stuck
  | call f => simpa using breaks_call f stuck
  | base => exact breaks_base stuck
  | @value b wf =>
    have deep : depth + 1 + b.nesting ≤
        peak depth (['l', 'o', 'g', '('] ++ b.text ++ [','] ++ before) := by
      have base := Opening.base.peak_le depth (b.text ++ ([','] ++ before))
      rw [peak_phrase _ b wf] at base
      simp only [List.append_assoc] at base ⊢
      omega
    have baseLeaves : (phrase fuel (levels + 1)).Leaves AtMost b.text b (',' :: (before ++ rest))
        (Exactly operatorEntries) :=
      leaves_phrase fuel levels b (by omega)
        (by simp only [List.length_append] at short; omega) (complete_of_stop wf (by decide))
    simpa using breaks_value baseLeaves stuck

theorem idle_pure {α β : Type} {heads : List Char} {r : Rule α} {before : List Char}
    {entries : List Expectation} {rest : List Char} {pre : Mark} (g : α → β)
    (h : r.Breaks pre heads before entries rest) :
    (r >>= fun found => pure (g found)).Breaks pre heads before entries rest := by
  refine h.bind_idle ?_
  intro value head after position f member beyond
  exact ⟨g value, rfl⟩

theorem fails_operator_head {head : Char} (member : head ∈ ['(']) (after : List Char) :
    operator.Fails (head :: after) operatorEntries := by
  obtain rfl := List.mem_singleton.mp member
  exact fails_operator fun op => by cases op <;> simp [Operator.symbol]

theorem breaks_entry {inner : Rule Phrase} (op : Operator) {before : List Char}
    {entries : List Expectation} {rest : List Char}
    (operandBreaks : (operand inner).Breaks Before ['('] before entries rest) :
    (entry inner).Breaks AtMost ['('] (op.symbol :: before) entries rest := by
  obtain ⟨entries', taken⟩ := takes_operator op (before ++ rest)
  exact (taken.leaves_before (by simp)).bind_breaks (idle_pure _ operandBreaks)

theorem breaks_others (fuel levels : Nat) (others : List (Operator × Operand))
    (wf : RestWellFormed others) (shallow : restNesting others ≤ levels)
    (short : (restText others).length ≤ fuel) (limit : Nat) (few : others.length < limit)
    {op : Operator} {before : List Char} {entries : List Expectation} {rest : List Char}
    (broken : (entry (phrase fuel levels)).Breaks Before ['('] (op.symbol :: before) entries rest) :
    (repeated limit (entry (phrase fuel levels))).Breaks Before phraseHeads
      (restText others ++ op.symbol :: before) entries rest := by
  match others, limit with
  | [], limit + 1 =>
    have member : op.symbol ∈ phraseHeads := by cases op <;> decide
    refine breaks_repeated broken member (by decide) ?_
    intro stop after within
    exact ⟨_, (fails_operator_head within after).bind⟩
  | (op', o) :: others, limit + 1 =>
    simp only [restNesting, Nat.max_le] at shallow
    simp only [restText, List.length_cons, List.length_append] at short
    have stops : o.EndsBefore (restText others ++ op.symbol :: before ++ rest).head? := by
      rw [List.append_assoc, List.cons_append]
      exact o.endsBefore_rounds others op (before ++ rest)
    have operandLeaves := leaves_operand fuel levels o wf.1 shallow.1 (by omega) stops
    have othersBreak := breaks_others fuel levels others wf.2 shallow.2 (by omega) limit
      (by simpa using few) broken
    have one := (leaves_entry op' operandLeaves).strengthen fun _ _ => Before.atMost
    have all := breaks_repeated_cons one othersBreak
    rwa [← List.append_assoc] at all

end Snags

end Grammar

open Grammar Rule Frontier

def Nonterminal.SticksIn (fuel levels : Nat) (before : List Char) (entries : List Expectation)
    (rest : List Char) : Nonterminal → Prop
  | .phrase => Sticks phraseHeads (Grammar.phrase fuel (levels + 1)) before entries rest
  | .operand => Sticks ['('] (Grammar.operand (Grammar.phrase fuel levels)) before entries rest
  | .primary => Sticks ['('] (Grammar.primary (Grammar.phrase fuel levels)) before entries rest

theorem Snag.head?_ne_minus {before point : List Char} {next : Option Char}
    {entries : List Expectation} (snag : Snag .primary before point next entries)
    (begun : before ≠ []) (after : List Char) : (before ++ after).head? ≠ some '-' := by
  cases snag with
  | nothing => exact absurd rfl begun
  | lonePoint => exact absurd rfl begun
  | inside opens snag =>
    rw [List.append_assoc]
    exact opens.head?_ne_minus _
  | unclosed opens complete isOpen =>
    rw [List.append_assoc]
    exact opens.head?_ne_minus _

theorem Snag.head?_ne_minus_of_nothing {before point : List Char} {next : Option Char}
    {entries : List Expectation} (snag : Snag .primary before point next entries)
    (nothing : before = []) (noSign : point = [] → next ≠ some '-') {rest : List Char}
    (stands : rest.head? = next) : (point ++ rest).head? ≠ some '-' := by
  cases snag with
  | nothing => exact stands ▸ noSign rfl
  | lonePoint => simp
  | inside opens snag => exact absurd nothing (List.append_ne_nil_of_left_ne_nil opens.ne_nil _)
  | unclosed opens => exact absurd nothing (List.append_ne_nil_of_left_ne_nil opens.ne_nil _)

theorem Snag.length_entries_of_nothing {before point : List Char} {next : Option Char}
    {entries : List Expectation} (snag : Snag .operand before point next entries)
    (nothing : before = []) : entries.length ≠ 1 := by
  cases snag with
  | unsigned noSign snag =>
    have some := List.length_pos_iff.mpr snag.entries_ne_nil
    simp only [List.length_cons]
    omega
  | signed => exact absurd nothing (List.cons_ne_nil _ _)
  | plain begun => exact absurd nothing begun

theorem Snag.sticks {n : Nonterminal} {before point : List Char} {next : Option Char}
    {entries : List Expectation} (snag : Snag n before point next entries) (depth levels : Nat)
    (shallow : peak depth before ≤ depth + levels) {fuel : Nat} {rest : List Char}
    (stands : rest.head? = next) (short : (before ++ point ++ rest).length ≤ fuel) :
    n.SticksIn fuel levels before entries (point ++ rest) := by
  -- Each parenthesis that the snag lies in takes one of the levels.
  induction snag generalizing depth levels with
  | nothing unfit =>
    subst stands
    exact ⟨fun _ => fails_primary (.inl unfit), fun begun => absurd rfl begun⟩
  | lonePoint noDigit =>
    subst stands
    exact ⟨fun _ => fails_primary (.inr ⟨rest, rfl, noDigit⟩), fun begun => absurd rfl begun⟩
  | @inside opening before point closer next entries opens snag ih =>
    obtain ⟨below, rfl, within⟩ := opens.exists_levels shallow
    have inner := ih (depth + 1) below within stands
      (by simp only [List.length_append] at short ⊢; omega)
    refine sticks_of_breaks (List.append_ne_nil_of_left_ne_nil opens.ne_nil _) ?_
    refine breaks_opening opens shallow (by simpa using short) ?_
    exact stuck_of_breaks opens.closes (inner.breaks snag.entries_ne_nil)
  | @unclosed opening closer p next opens complete isOpen =>
    subst stands
    obtain ⟨below, rfl, within⟩ := opens.exists_levels shallow
    have nesting := peak_phrase (depth + 1) p complete.wellFormed []
    rw [List.append_nil] at nesting
    have inner := leaves_phrase fuel below p (by omega)
      (by simp only [List.length_append] at short; omega) complete
    refine sticks_of_breaks (List.append_ne_nil_of_left_ne_nil opens.ne_nil _) ?_
    refine breaks_opening opens shallow (by simpa using short) ?_
    exact stuck_of_leaves isOpen inner
  | @unsigned point next entries noSign snag ih =>
    have inner := (ih depth levels shallow stands short).1 rfl
    have noMinus := snag.head?_ne_minus_of_nothing rfl noSign stands
    exact ⟨fun _ => (takes_noSign noMinus).bind_fails inner.bind, fun begun => absurd rfl begun⟩
  | @signed before point next entries snag ih =>
    have same : peak depth ('-' :: before) = peak depth before :=
      Operator.peak_symbol .subtract depth before
    have inner := ih depth levels (by omega) stands
      (by simp only [List.cons_append, List.length_cons] at short; omega)
    refine sticks_of_breaks (List.cons_ne_nil '-' before) ?_
    have sign := (takes_sign (before ++ (point ++ rest))).leaves_before (by simp)
    exact sign.bind_breaks (idle_pure _ (inner.breaks snag.entries_ne_nil))
  | @plain before point next entries begun snag ih =>
    have inner := (ih depth levels shallow stands short).2 begun
    have noMinus := snag.head?_ne_minus begun (point ++ rest)
    refine sticks_of_breaks begun ?_
    exact (takes_noSign noMinus).leaves.bind_breaks (idle_pure _ inner)
  | @empty point next entries snag ih =>
    have inner := (ih depth levels shallow stands short).1 rfl
    have many := snag.length_entries_of_nothing rfl
    exact ⟨fun _ => inner.bind.named _ many, fun begun => absurd rfl begun⟩
  | @first before point next entries begun snag ih =>
    have inner := (ih depth levels shallow stands short).2 begun
    refine sticks_of_breaks begun (Breaks.named _ ?_ begun)
    refine Breaks.mono (inner.bind_idle ?_) (by decide)
    intro value head after position f member beyond
    -- The operand may be given back up to a parenthesis, where no further round begins.
    have refused : (entry (Grammar.phrase fuel levels)).Fails (head :: after) operatorEntries :=
      (fails_operator_head member after).bind
    have stops := repeated_idle refused fuel beyond
    refine ⟨.mk value [], ?_⟩
    change (repeated fuel (entry (Grammar.phrase fuel levels)) >>= _).run _ f = _
    rw [run_bind, stops]
    rfl
  | @later p wf op before point next entries snag ih =>
    obtain ⟨first, others⟩ := p
    have nesting := peak_phrase depth (.mk first others) wf (op.symbol :: before)
    rw [Operator.peak_symbol, Phrase.nesting] at nesting
    have inner := ih depth levels (by omega) stands
      (by simp only [List.length_append, List.length_cons] at short ⊢; omega)
    simp only [Phrase.text, List.length_append] at short
    have begun := Operand.length_text_pos wf.1
    have count := length_restText others
    have broken := (breaks_entry op (inner.breaks snag.entries_ne_nil)).strengthen
      fun _ _ => Before.atMost
    -- The repetition gives the last round back and matches, with the frontier further on.
    have othersBreak := breaks_others fuel levels others wf.2 (by omega) (by omega) fuel
      (by omega) broken
    have stops : first.EndsBefore
        (restText others ++ op.symbol :: before ++ (point ++ rest)).head? := by
      rw [List.append_assoc, List.cons_append]
      exact first.endsBefore_rounds others op (before ++ (point ++ rest))
    have firstLeaves := leaves_operand fuel levels first wf.1 (by omega) (by omega) stops
    refine sticks_of_breaks (by simp) (Breaks.named _ ?_ (by simp))
    rw [Phrase.text, List.append_assoc]
    exact firstLeaves.bind_breaks (idle_pure _ othersBreak)

theorem fails_endOfInput {text : List Char} (more : text ≠ []) :
    (named .endOfInput atEnd).Fails text [.endOfInput] :=
  (fails_atEnd more).named _ (by decide)

theorem Halt.fails_whole {before point : List Char} {rest : List Char}
    {entries : List Expectation} (halt : Halt before point rest.head? entries) (levels : Nat)
    (shallow : peak 0 before ≤ levels) {fuel : Nat}
    (short : (before ++ point ++ rest).length ≤ fuel) :
    (whole fuel (levels + 1)).run ⟨0, before ++ point ++ rest⟩ .start =
      .failed ⟨before.length, entries⟩ := by
  rw [List.append_assoc]
  have place : 0 + before.length = before.length := Nat.zero_add _
  have start : AtMost 0 Frontier.start := Nat.le_refl 0
  generalize stands : rest.head? = next at halt
  cases halt with
  | inside snag =>
    have sticks := snag.sticks 0 levels (by omega) stands short
    by_cases begun : before = []
    · subst begun
      have nothing : (whole fuel (levels + 1)).Fails (point ++ rest) entries :=
        (sticks.1 rfl).bind
      rw [List.nil_append, nothing, Frontier.start, addAll_self]
      rfl
    · have stuck : (whole fuel (levels + 1)).Breaks AtMost [] before entries (point ++ rest) :=
        (sticks.2 begun).bind_fails fun _ head after _ =>
          ⟨_, (fails_endOfInput (List.cons_ne_nil head after)).bind⟩
      rw [stuck.run_eq start, place]
  | @behind p next complete more =>
    subst stands
    have nesting := peak_phrase 0 p complete.wellFormed []
    rw [List.append_nil] at nesting
    have leaves := leaves_phrase fuel levels p (by omega)
      (by simp only [List.length_append] at short; omega) complete
    have behind : rest ≠ [] := by
      rintro rfl
      exact more rfl
    have stuck : (whole fuel (levels + 1)).Breaks AtMost [] p.text
        (operatorEntries ++ [.endOfInput]) rest :=
      leaves.bind_fails (fails_endOfInput behind).bind
    rw [List.nil_append, stuck.run_eq start, place]

theorem Halt.recognize_eq {before point : List Char} {rest : List Char}
    {entries : List Expectation} (halt : Halt before point rest.head? entries) (levels : Nat)
    (shallow : peak 0 before ≤ levels) :
    recognize (levels + 1) (before ++ point ++ rest) =
      .error ⟨before.length + 1, .unexpected entries⟩ := by
  rw [recognize, Cursor.start, halt.fails_whole levels shallow (Nat.le_refl _)]

end FormulaNumerics.Syntax
