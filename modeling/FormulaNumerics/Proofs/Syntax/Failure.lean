import FormulaNumerics.Proofs.Syntax.Snags
import FormulaNumerics.Proofs.Syntax.Tracking

set_option autoImplicit false

namespace FormulaNumerics.Syntax.Grammar

open Rule Frontier

section Tokens

theorem fails_operator {text : List Char}
    (noOperator : ∀ op : Operator, text.head? ≠ some op.symbol) :
    operator.Fails text operatorEntries := by
  have each (op : Operator) (_ : op ∈ Operator.all) :
      (named (operatorExpectation op) (do word [op.symbol]; pure op)).Fails text
        [operatorExpectation op] :=
    Fails.named _ (Fails.bind (fails_letter (noOperator op))) (by simp)
  exact fails_firstOf_map each

theorem takes_operator (op : Operator) (rest : List Char) :
    ∃ entries : List Expectation, operator.Takes [op.symbol] op rest entries := by
  have one := (takes_word [op.symbol] rest).bind_pure fun _ => op
  refine takes_firstOf_map op.mem_all (one.named (operatorExpectation op)) ?_
  intro other apart
  refine ⟨[operatorExpectation other], Fails.named _ (Fails.bind (fails_letter ?_)) (by simp)⟩
  intro same
  exact apart (Operator.symbol_injective (by simpa using same.symm))

theorem takes_sign (rest : List Char) :
    (present (named .negation (word ['-']))).Takes ['-'] true rest [] :=
  ((takes_word ['-'] rest).named _).present

theorem takes_noSign {text : List Char} (noSign : text.head? ≠ some '-') :
    (present (named .negation (word ['-']))).Takes [] false text [.negation] :=
  ((fails_letter noSign).named _ (by simp)).present

theorem takes_literal {l : Literal} (wf : l.WellFormed) {rest : List Char}
    (ends : (Primary.number l).EndsBefore rest.head?) : literal.Takes l.text l rest [] := by
  obtain ⟨whole, pointed, fraction⟩ := l
  obtain ⟨wholeDigits, fractionDigits, unpointed, someDigit⟩ := wf
  simp only at wholeDigits fractionDigits unpointed someDigit
  have noDigit : ∀ c ∈ rest.head?, c.isDigit = false := fun c first => (ends c first).1
  have behindWhole : ∀ c ∈ ('.' :: (fraction ++ rest)).head?, c.isDigit = false :=
    forall_mem_head?_cons (by decide) (fraction ++ rest)
  apply Takes.named
  by_cases empty : whole = []
  · have nonempty : fraction ≠ [] := by simpa [empty] using someDigit
    have pointSet : pointed = true := by
      cases pointed with
      | false => exact absurd (unpointed rfl) nonempty
      | true => rfl
    subst empty pointSet
    have wholeFails : (nonemptySpan Char.isDigit).Fails ('.' :: (fraction ++ rest)) [] :=
      fails_nonemptySpan behindWhole
    have fractionTaken := takes_nonemptySpan nonempty fractionDigits noDigit
    have pointed : (word ['.'] >>= fun _ => nonemptySpan Char.isDigit >>= fun fraction =>
        pure (Literal.mk [] true fraction)).Takes ('.' :: fraction) ⟨[], true, fraction⟩ rest [] :=
      (takes_word ['.'] _).bind (fractionTaken.bind_pure _)
    exact wholeFails.bind.orElse_takes pointed
  · apply Takes.orElse
    cases pointed with
    | true =>
      have wholeTaken := takes_nonemptySpan empty wholeDigits behindWhole
      have pointTaken := (takes_word ['.'] (fraction ++ rest)).present
      have fractionTaken := takes_span fractionDigits noDigit
      exact wholeTaken.bind (pointTaken.bind (fractionTaken.bind_pure _))
    | false =>
      obtain rfl := unpointed rfl
      have noPoint : rest.head? ≠ some '.' := fun point => (ends '.' point).2 rfl rfl
      have wholeTaken := takes_nonemptySpan empty wholeDigits noDigit
      have pointMissing := (fails_letter noPoint).present
      have nothing : (pure [] >>= fun fraction => pure ⟨whole, false, fraction⟩ :
          Rule Literal).Takes [] ⟨whole, false, []⟩ rest [] :=
        (takes_pure [] rest).bind_pure _
      simpa [Literal.text] using wholeTaken.bind_nil (pointMissing.bind_nil nothing)

theorem fails_literal {text : List Char} (noDigit : ∀ c ∈ text.head?, c.isDigit = false)
    (noFraction : ∀ after : List Char, text = '.' :: after →
      ∀ c ∈ after.head?, c.isDigit = false) : literal.Fails text [.number] := by
  have pointed : (word ['.'] >>= fun _ => nonemptySpan Char.isDigit >>= fun fraction =>
      pure (Literal.mk [] true fraction)).Fails text [] := by
    by_cases point : text.head? = some '.'
    · obtain ⟨after, rfl⟩ := List.head?_eq_some_iff.mp point
      exact (takes_word ['.'] after).bind_silent (fails_nonemptySpan (noFraction after rfl)).bind
    · exact (fails_letter point).bind
  exact ((fails_nonemptySpan noDigit).bind.orElse pointed).named _ (by simp)

theorem takes_variableName {letters : List Char} (isName : IsName letters) {rest : List Char}
    (ends : ∀ c ∈ rest.head?, Text.isAlphabetic c = false) :
    variableName.Takes letters letters rest [] :=
  (takes_nonemptySpan isName.nonempty isName.alphabetic ends).named _

theorem fails_variableName {text : List Char}
    (ends : ∀ c ∈ text.head?, Text.isAlphabetic c = false) :
    variableName.Fails text [.variableName] :=
  (fails_nonemptySpan ends).named _ (by simp)

theorem takes_functionName (f : NamedFunction) (rest : List Char) :
    ∃ entries : List Expectation,
      functionName.Takes f.name.toList f ('(' :: rest) entries := by
  have taken : ∃ entries : List Expectation,
      (firstOf (NamedFunction.all.map fun f => do word f.name.toList; pure f)).Takes
        f.name.toList f ('(' :: rest) entries := by
    refine takes_firstOf_map f.mem_all ((takes_word f.name.toList _).bind_pure _) ?_
    intro other apart
    exact ⟨[], (fails_word (function_name_apart apart rest)).bind⟩
  obtain ⟨entries, taken⟩ := taken
  exact ⟨entries, taken.named _⟩

end Tokens

section Primaries

variable {inner : Rule Phrase} {text rest : List Char}

theorem fails_opening {β : Type} (next : Unit → Rule β) {letters : List Char}
    (noCall : ∀ after : List Char, text ≠ letters ++ '(' :: after) :
    (word letters >>= fun _ => word ['('] >>= next).Fails text [] := by
  by_cases opens : letters <+: text
  · obtain ⟨rest, rfl⟩ := opens
    refine (takes_word letters rest).bind_silent (fails_letter ?_).bind
    intro first
    obtain ⟨after, rfl⟩ := List.head?_eq_some_iff.mp first
    exact noCall after rfl
  · exact (fails_word opens).bind

theorem fails_logarithm
    (noCall : ∀ after : List Char, text ≠ ['l', 'o', 'g'] ++ '(' :: after) :
    (logarithm inner).Fails text [.logarithm] :=
  (fails_opening _ noCall).named _ (by simp)

theorem fails_functionCall
    (noCall : ∀ (f : NamedFunction) (after : List Char), text ≠ f.name.toList ++ '(' :: after) :
    ∃ entries : List Expectation, (functionCall inner).Fails text entries := by
  obtain ⟨f, -, rest, rfl, taken⟩ | refused :=
    takes_or_fails_words (fun f : NamedFunction => f.name.toList) NamedFunction.all text
  · have noParenthesis : rest.head? ≠ some '(' := by
      intro first
      obtain ⟨after, rfl⟩ := List.head?_eq_some_iff.mp first
      exact noCall f after rfl
    exact ⟨[.functionCall],
      ((taken.named _).bind_silent (fails_letter noParenthesis).bind).named _ (by simp)⟩
  · exact ⟨[.functionName], (refused.named _ (by simp)).bind.named_single _⟩

theorem fails_functionCall_of_head
    (letterless : ∀ c ∈ text.head?, Text.isAlphabetic c = false) :
    (functionCall inner).Fails text [.functionName] := by
  obtain ⟨f, -, rest, split, -⟩ | refused :=
    takes_or_fails_words (fun f : NamedFunction => f.name.toList) NamedFunction.all text
  · exact absurd split ((isName_function f).ne_of_head letterless rest)
  · exact (refused.named _ (by simp)).bind.named_single _

theorem fails_group (noParenthesis : text.head? ≠ some '(') : (group inner).Fails text [] :=
  (fails_letter noParenthesis).bind

theorem fails_primary (unfit : (∀ c ∈ text.head?, ¬ OpensPrimary c) ∨
    ∃ after : List Char, text = '.' :: after ∧ ∀ c ∈ after.head?, c.isDigit = false) :
    (primary inner).Fails text primaryEntries := by
  have letterless : ∀ c ∈ text.head?, Text.isAlphabetic c = false := by
    obtain none | ⟨after, rfl, -⟩ := unfit
    · intro c first
      simpa using fun letter => none c first (.inr (.inr (.inl letter)))
    · exact forall_mem_head?_cons (by decide) after
  have noDigit : ∀ c ∈ text.head?, c.isDigit = false := by
    obtain none | ⟨after, rfl, -⟩ := unfit
    · intro c first
      simpa using fun digit => none c first (.inl digit)
    · exact forall_mem_head?_cons (by decide) after
  have noFraction : ∀ after : List Char, text = '.' :: after →
      ∀ c ∈ after.head?, c.isDigit = false := by
    rintro after rfl
    obtain none | ⟨after', same, noDigit⟩ := unfit
    · exact absurd (.inr (.inl rfl)) (none '.' rfl)
    · obtain rfl := (List.cons.inj same).2
      exact noDigit
  have noParenthesis : text.head? ≠ some '(' := by
    intro first
    obtain none | ⟨after, rfl, -⟩ := unfit
    · exact none '(' first (.inr (.inr (.inr rfl)))
    · simp at first
  have logarithmFails : (logarithm inner).Fails text [.logarithm] :=
    fails_logarithm fun after => isName_log.ne_of_head letterless _
  exact logarithmFails.orElse ((fails_functionCall_of_head letterless).orElse
    (((fails_literal noDigit noFraction).map _).orElse
      (((fails_variableName letterless).map _).orElse
        ((fails_group noParenthesis).orElse (fails_fail text)))))

theorem leaves_number {l : Literal} (wf : l.WellFormed)
    (ends : (Primary.number l).EndsBefore rest.head?) :
    (primary inner).Leaves AtMost l.text (.number l) rest Before := by
  have letterless := wf.head_not_alphabetic rest
  have nonempty : l.text ≠ [] := by
    obtain ⟨c, tail, spelled, -⟩ := wf.head
    simp [spelled]
  have number := ((takes_literal wf ends).map Primary.number).leaves_before nonempty
  refine Fails.orElse_leaves (fails_logarithm fun after => isName_log.ne_of_head letterless _) ?_
  exact (fails_functionCall_of_head letterless).orElse_leaves number.orElse

theorem fails_literal_letters {letters : List Char} (isName : IsName letters)
    (rest : List Char) : literal.Fails (letters ++ rest) [.number] := by
  obtain ⟨c, tail, rfl⟩ := List.exists_cons_of_ne_nil isName.nonempty
  have letter := isName.alphabetic c (by simp)
  have noDigit : c.isDigit = false := by
    cases digit : c.isDigit with
    | false => rfl
    | true => simp [Text.isAlphabetic_of_isDigit digit] at letter
  refine fails_literal (forall_mem_head?_cons noDigit _) ?_
  rintro after split
  obtain ⟨rfl, -⟩ := List.cons.inj split
  exact absurd letter (by decide)

theorem name_in_front_unique {letters word rest after : List Char} (isName : IsName letters)
    (isWord : IsName word) (ends : ∀ c ∈ rest.head?, Text.isAlphabetic c = false)
    (same : letters ++ rest = word ++ '(' :: after) : letters = word ∧ rest = '(' :: after := by
  have wordEnds : ∀ c ∈ ('(' :: after).head?, Text.isAlphabetic c = false :=
    forall_mem_head?_cons (by decide) after
  have runs := congrArg (List.takeWhile Text.isAlphabetic) same
  rw [isName.takeWhile ends, isWord.takeWhile wordEnds] at runs
  subst runs
  exact ⟨rfl, List.append_cancel_left same⟩

theorem leaves_name {letters : List Char} (isName : IsName letters)
    (ends : (Primary.name letters).EndsBefore rest.head?) :
    (primary inner).Leaves AtMost letters (.name letters) rest Before := by
  have letterless : ∀ c ∈ rest.head?, Text.isAlphabetic c = false :=
    fun c first => (ends c first).1
  have noCall {word : List Char} (isWord : IsName word) (opens : OpensCall word)
      (after : List Char) : letters ++ rest ≠ word ++ '(' :: after := by
    intro same
    obtain ⟨rfl, rfl⟩ := name_in_front_unique isName isWord letterless same
    exact (ends '(' rfl).2 opens rfl
  have name := ((takes_variableName isName letterless).map Primary.name).leaves_before
    isName.nonempty
  obtain ⟨entries, callFails⟩ : ∃ entries : List Expectation,
      (functionCall inner).Fails (letters ++ rest) entries :=
    fails_functionCall fun f after => noCall (isName_function f) (.inr ⟨f, rfl⟩) after
  refine Fails.orElse_leaves (fails_logarithm (noCall isName_log (.inl rfl))) ?_
  refine callFails.orElse_leaves ?_
  exact ((fails_literal_letters isName rest).map _).orElse_leaves name.orElse

end Primaries

section Parentheses

variable {inner : Rule Phrase} {before rest : List Char} {entries : List Expectation}

theorem leaves_letter (c : Char) (rest : List Char) :
    (word [c]).Leaves AtMost [c] () rest Before :=
  (takes_word [c] rest).leaves_before (List.cons_ne_nil c [])

theorem leaves_letter_behind (c : Char) (entries : List Expectation) (rest : List Char) :
    (word [c]).Leaves (Exactly entries) [c] () rest Before :=
  (leaves_letter c rest).strengthen fun _ _ => Exactly.atMost

theorem leaves_closed {p : Phrase} {closer : Char} (g : Phrase → Primary)
    (innerLeaves : inner.Leaves AtMost p.text p (closer :: rest) (Exactly operatorEntries)) :
    (inner >>= fun p => word [closer] >>= fun _ => pure (g p)).Leaves AtMost (p.text ++ [closer])
      (g p) rest Before := by
  exact innerLeaves.bind ((leaves_letter_behind closer operatorEntries rest).bind_pure _)

theorem leaves_group {p : Phrase}
    (innerLeaves : inner.Leaves AtMost p.text p (')' :: rest) (Exactly operatorEntries)) :
    (primary inner).Leaves AtMost (Primary.group p).text (.group p) rest Before := by
  have letterless : ∀ c ∈ ((Primary.group p).text ++ rest).head?, Text.isAlphabetic c = false :=
    forall_mem_head?_cons (by decide) _
  have noDigit : ∀ c ∈ ((Primary.group p).text ++ rest).head?, c.isDigit = false :=
    forall_mem_head?_cons (by decide) _
  refine Fails.orElse_leaves (fails_logarithm fun _ => isName_log.ne_of_head letterless _) ?_
  refine (fails_functionCall_of_head letterless).orElse_leaves ?_
  refine ((fails_literal noDigit (by simp [Primary.text])).map _).orElse_leaves ?_
  refine ((fails_variableName letterless).map _).orElse_leaves (Leaves.orElse ?_)
  exact (takes_word ['('] _).leaves.bind (leaves_closed Primary.group innerLeaves)

theorem leaves_call (f : NamedFunction) {p : Phrase}
    (innerLeaves : inner.Leaves AtMost p.text p (')' :: rest) (Exactly operatorEntries)) :
    (primary inner).Leaves AtMost (Primary.call f p).text (.call f p) rest Before := by
  have noLogarithm (after : List Char) :
      (Primary.call f p).text ++ rest ≠ ['l', 'o', 'g'] ++ '(' :: after := by
    cases f <;> simp [Primary.text, NamedFunction.name]
  refine Fails.orElse_leaves (fails_logarithm noLogarithm) (Leaves.orElse (Leaves.named _ ?_))
  obtain ⟨entries, name⟩ := takes_functionName f (p.text ++ [')'] ++ rest)
  exact name.leaves.bind ((takes_word ['('] _).leaves.bind (leaves_closed _ innerLeaves))

theorem leaves_log {b v : Phrase}
    (baseLeaves : inner.Leaves AtMost b.text b (',' :: (v.text ++ [')'] ++ rest))
      (Exactly operatorEntries))
    (valueLeaves : inner.Leaves AtMost v.text v (')' :: rest) (Exactly operatorEntries)) :
    (primary inner).Leaves AtMost (Primary.log b v).text (.log b v) rest Before := by
  refine Leaves.orElse (Leaves.named _ ?_)
  have comma := (leaves_letter_behind ',' operatorEntries (v.text ++ [')'] ++ rest)).weaken
    fun _ _ => Before.atMost
  exact (takes_word ['l', 'o', 'g'] _).leaves.bind ((takes_word ['('] _).leaves.bind
    (baseLeaves.bind (comma.bind (leaves_closed _ valueLeaves))))

-- The phrase in parentheses breaks off, or it is not followed by what closes it.
def Stuck (inner : Rule Phrase) (closer : Char) (before : List Char) (entries : List Expectation)
    (rest : List Char) : Prop :=
  ∀ next : Phrase → Unit → Rule Primary,
    (inner >>= fun p => word [closer] >>= next p).Breaks Before [] before entries rest

-- A phrase that breaks off stops in front of an operator or a parenthesis that opens.
def phraseHeads : List Char :=
  '(' :: Operator.all.map Operator.symbol

theorem not_mem_phraseHeads {closer : Char} (stops : closer ∈ phraseStops) :
    closer ∉ phraseHeads := by
  simp only [phraseStops, List.mem_cons, List.not_mem_nil, or_false] at stops
  obtain rfl | rfl := stops
  · decide
  · decide

theorem stuck_of_breaks {closer : Char} (closes : closer ∈ phraseStops)
    (broken : inner.Breaks Before phraseHeads before entries rest) :
    Stuck inner closer before entries rest := by
  intro next
  refine broken.bind_fails ?_
  intro p head after member
  refine ⟨[], (fails_letter ?_).bind⟩
  simp only [List.head?_cons, ne_eq, Option.some.injEq]
  rintro rfl
  exact not_mem_phraseHeads closes member

theorem stuck_of_leaves {closer : Char} {p : Phrase} (isOpen : rest.head? ≠ some closer)
    (innerLeaves : inner.Leaves AtMost p.text p rest (Exactly entries)) :
    Stuck inner closer p.text entries rest := by
  intro next
  have broken : (inner >>= fun p => word [closer] >>= next p).Breaks AtMost [] p.text
      (entries ++ []) rest :=
    innerLeaves.bind_fails (fails_letter isOpen).bind
  rw [List.append_nil] at broken
  exact broken.strengthen fun _ _ => Before.atMost

theorem breaks_group (stuck : Stuck inner ')' before entries rest) :
    (primary inner).Breaks AtMost ['('] ('(' :: before) entries rest := by
  have letterless : ∀ c ∈ ('(' :: before ++ rest).head?, Text.isAlphabetic c = false :=
    forall_mem_head?_cons (by decide) _
  have noDigit : ∀ c ∈ ('(' :: before ++ rest).head?, c.isDigit = false :=
    forall_mem_head?_cons (by decide) _
  have opened : (group inner).Breaks AtMost [] ('(' :: before) entries rest :=
    (leaves_letter '(' _).bind_breaks (stuck _)
  refine Breaks.mono ?_ (List.nil_subset _)
  refine Fails.orElse_breaks (fails_logarithm fun _ => isName_log.ne_of_head letterless _) ?_
  refine (fails_functionCall_of_head letterless).orElse_breaks ?_
  refine ((fails_literal noDigit (by simp)).map _).orElse_breaks ?_
  refine ((fails_variableName letterless).map _).orElse_breaks ?_
  exact opened.orElse_fails (by simp) (fails_fail _)

-- A word in front of a parenthesis is still a name if no call can be read there.
theorem takes_word_alternative {letters : List Char} (isName : IsName letters) (s : Rule Primary)
    (after : List Char) : ∃ entries : List Expectation,
      ((Primary.number <$> literal).orElse ((Primary.name <$> variableName).orElse s)).Takes
        letters (.name letters) ('(' :: after) entries := by
  have ends : ∀ c ∈ ('(' :: after).head?, Text.isAlphabetic c = false :=
    forall_mem_head?_cons (by decide) after
  have name := (takes_variableName isName ends).map Primary.name
  exact ⟨_, ((fails_literal_letters isName _).map _).orElse_takes name.orElse⟩

theorem breaks_call (f : NamedFunction) (stuck : Stuck inner ')' before entries rest) :
    (primary inner).Breaks AtMost ['('] (f.name.toList ++ '(' :: before) entries rest := by
  have noLogarithm (after : List Char) :
      f.name.toList ++ '(' :: before ++ rest ≠ ['l', 'o', 'g'] ++ '(' :: after := by
    cases f <;> simp [NamedFunction.name]
  obtain ⟨entries', name⟩ := takes_functionName f (before ++ rest)
  have called : (functionCall inner).Breaks AtMost [] (f.name.toList ++ '(' :: before) entries
      rest := by
    refine Breaks.named _ ?_ (by simp)
    exact name.leaves.bind_breaks ((leaves_letter '(' _).bind_breaks (stuck _))
  obtain ⟨entries'', word⟩ := takes_word_alternative (isName_function f)
    ((group inner).orElse fail) (before ++ rest)
  refine Fails.orElse_breaks (fails_logarithm noLogarithm) ?_
  exact called.orElse_takes (by simp) (by simp) (by simp) word

theorem breaks_log
    (stuck : (logarithm inner).Breaks AtMost [] (['l', 'o', 'g', '('] ++ before) entries rest) :
    (primary inner).Breaks AtMost ['('] (['l', 'o', 'g', '('] ++ before) entries rest := by
  have noCall (f : NamedFunction) (after : List Char) :
      ['l', 'o', 'g'] ++ '(' :: (before ++ rest) ≠ f.name.toList ++ '(' :: after := by
    cases f <;> simp [NamedFunction.name]
  obtain ⟨entries', callFails⟩ : ∃ entries' : List Expectation,
      (functionCall inner).Fails (['l', 'o', 'g'] ++ '(' :: (before ++ rest)) entries' :=
    fails_functionCall noCall
  obtain ⟨entries'', word⟩ := takes_word_alternative isName_log
    ((group inner).orElse fail) (before ++ rest)
  exact stuck.orElse_takes (by simp) (by simp) (by simp) (callFails.orElse_takes word)

theorem breaks_base (stuck : Stuck inner ',' before entries rest) :
    (primary inner).Breaks AtMost ['('] (['l', 'o', 'g', '('] ++ before) entries rest := by
  refine breaks_log (Breaks.named _ ?_ (by simp))
  exact (takes_word ['l', 'o', 'g'] _).leaves.bind_breaks
    ((leaves_letter '(' _).bind_breaks (stuck _))

theorem breaks_value {b : Phrase}
    (baseLeaves : inner.Leaves AtMost b.text b (',' :: (before ++ rest)) (Exactly operatorEntries))
    (stuck : Stuck inner ')' before entries rest) :
    (primary inner).Breaks AtMost ['('] (['l', 'o', 'g', '('] ++ (b.text ++ ',' :: before)) entries
      rest := by
  refine breaks_log (Breaks.named _ ?_ (by simp))
  have comma := leaves_letter_behind ',' operatorEntries (before ++ rest)
  exact (takes_word ['l', 'o', 'g'] _).leaves.bind_breaks ((takes_word ['('] _).leaves.bind_breaks
    (baseLeaves.bind_breaks (comma.bind_breaks (stuck _))))

end Parentheses

end FormulaNumerics.Syntax.Grammar
