import FormulaNumerics.Proofs.Syntax.Reading
import FormulaNumerics.Proofs.Syntax.Spelling
import FormulaNumerics.Syntax.Grammar

set_option autoImplicit false

namespace FormulaNumerics.Syntax

def StopsAt (stops rest : List Char) : Prop :=
  ∀ c ∈ rest.head?, c ∈ stops

def phraseStops : List Char :=
  [')', ',']

def operandStops : List Char :=
  phraseStops ++ Operator.all.map Operator.symbol

theorem forall_mem_head?_cons {P : Char → Prop} {c : Char} (holds : P c) (rest : List Char) :
    ∀ c' ∈ (c :: rest).head?, P c' := by
  intro c' first
  simp only [List.head?_cons, Option.mem_def, Option.some.injEq] at first
  exact first ▸ holds

theorem stopsAt_cons {stops rest : List Char} {c : Char} (member : c ∈ stops) :
    StopsAt stops (c :: rest) :=
  forall_mem_head?_cons member rest

theorem stopsAt_nil (stops : List Char) : StopsAt stops [] := by
  intro c first
  simp at first

theorem stopsAt_operator (op : Operator) (rest : List Char) :
    StopsAt operandStops (op.symbol :: rest) :=
  stopsAt_cons (by cases op <;> decide)

theorem StopsAt.operand {rest : List Char} (h : StopsAt phraseStops rest) :
    StopsAt operandStops rest := by
  intro c first
  exact List.mem_append_left _ (h c first)

theorem operandStops_spec {c : Char} (member : c ∈ operandStops) :
    c.isDigit = false ∧ Text.isAlphabetic c = false ∧ c ≠ '.' ∧ c ≠ '(' := by
  have each : operandStops.all (fun c =>
      !c.isDigit && (!Text.isAlphabetic c && (c != '.' && c != '('))) = true := by decide
  simpa using List.all_eq_true.mp each c member

theorem StopsAt.not_alphabetic {rest : List Char} (ends : StopsAt operandStops rest) :
    ∀ c ∈ rest.head?, Text.isAlphabetic c = false := by
  intro c first
  exact (operandStops_spec (ends c first)).2.1

theorem isName_of_all {letters : List Char} (nonempty : letters ≠ [])
    (alphabetic : letters.all Text.isAlphabetic = true) : IsName letters :=
  ⟨nonempty, List.all_eq_true.mp alphabetic⟩

theorem isName_function (f : NamedFunction) : IsName f.name.toList := by
  cases f <;> exact isName_of_all (by decide) (by decide)

theorem isName_log : IsName ['l', 'o', 'g'] :=
  isName_of_all (by decide) (by decide)

theorem IsName.takeWhile {letters : List Char} (isName : IsName letters) {rest : List Char}
    (ends : ∀ c ∈ rest.head?, Text.isAlphabetic c = false) :
    (letters ++ rest).takeWhile Text.isAlphabetic = letters := by
  have stop : rest.takeWhile Text.isAlphabetic = [] := by
    cases rest with
    | nil => rfl
    | cons c rest => simp [ends c rfl]
  rw [List.takeWhile_append_of_pos isName.alphabetic, stop, List.append_nil]

theorem IsName.ne_of_head {word : List Char} (isName : IsName word) {text : List Char}
    (opens : ∀ c ∈ text.head?, Text.isAlphabetic c = false) (after : List Char) :
    text ≠ word ++ after := by
  rintro rfl
  cases word with
  | nil => exact isName.nonempty rfl
  | cons c letters =>
    have letter := isName.alphabetic c (by simp)
    simp [opens c rfl] at letter

-- A name that does not stand in front of a parenthesis opens no call.
theorem IsName.ne_of_rest {letters word : List Char} (isName : IsName letters)
    (isWord : IsName word) {rest : List Char} (ends : StopsAt operandStops rest)
    (after : List Char) : letters ++ rest ≠ word ++ '(' :: after := by
  intro same
  have parenEnds : ∀ c ∈ ('(' :: after).head?, Text.isAlphabetic c = false :=
    forall_mem_head?_cons (by decide) after
  have runs := congrArg (List.takeWhile Text.isAlphabetic) same
  rw [isName.takeWhile ends.not_alphabetic, isWord.takeWhile parenEnds] at runs
  subst runs
  have behind := List.append_cancel_left same
  subst behind
  exact (operandStops_spec (ends '(' rfl)).2.2.2 rfl

theorem Literal.WellFormed.head {l : Literal} (wf : l.WellFormed) :
    ∃ (c : Char) (tail : List Char), l.text = c :: tail ∧ (c.isDigit = true ∨ c = '.') := by
  obtain ⟨whole, pointed, fraction⟩ := l
  obtain ⟨wholeDigits, -, unpointed, someDigit⟩ := wf
  cases whole with
  | cons c whole => exact ⟨c, _, rfl, .inl (wholeDigits c (by simp))⟩
  | nil =>
    cases pointed with
    | true => exact ⟨'.', _, rfl, .inr rfl⟩
    | false =>
      have noFraction : fraction = [] := unpointed rfl
      simp [noFraction] at someDigit

theorem Literal.WellFormed.not_alphabetic {l : Literal} (wf : l.WellFormed) :
    ∀ c ∈ l.text, Text.isAlphabetic c = false := by
  obtain ⟨whole, pointed, fraction⟩ := l
  intro c member
  have digitOrPoint : c.isDigit = true ∨ c = '.' := by
    cases pointed with
    | true =>
      obtain inWhole | rfl | inFraction : c ∈ whole ∨ c = '.' ∨ c ∈ fraction := by
        simpa [Literal.text] using member
      · exact .inl (wf.wholeDigits c inWhole)
      · exact .inr rfl
      · exact .inl (wf.fractionDigits c inFraction)
    | false =>
      have inWhole : c ∈ whole := by simpa [Literal.text] using member
      exact .inl (wf.wholeDigits c inWhole)
  obtain digit | rfl := digitOrPoint
  · exact Text.isAlphabetic_of_isDigit digit
  · decide

theorem Literal.WellFormed.head_not_alphabetic {l : Literal} (wf : l.WellFormed)
    (rest : List Char) : ∀ c ∈ (l.text ++ rest).head?, Text.isAlphabetic c = false := by
  obtain ⟨c, tail, spelled, -⟩ := wf.head
  intro c' first
  obtain rfl : c = c' := by simpa [spelled] using first
  exact wf.not_alphabetic c (by simp [spelled])

theorem function_name_apart {f g : NamedFunction} (apart : g ≠ f) (rest : List Char) :
    ¬ g.name.toList <+: f.name.toList ++ '(' :: rest := by
  cases f <;> cases g <;> simp_all [NamedFunction.name]

namespace Grammar

open Rule

theorem reads_operator (op : Operator) (rest : List Char) :
    operator.Reads [op.symbol] op rest := by
  have one (op : Operator) (rest : List Char) : (do word [op.symbol]; pure op : Rule Operator).Reads
      [op.symbol] op rest :=
    (reads_word [op.symbol] rest).bind_nil (reads_pure op rest)
  refine reads_firstOf_map op.mem_all ((one op rest).named _) ?_
  intro other apart
  refine ((refuses_word ?_).bind).named _
  intro opens
  have same : other.symbol = op.symbol := by simpa using opens
  exact apart (Operator.symbol_injective same)

theorem refuses_operator {rest : List Char} (ends : StopsAt phraseStops rest) :
    operator.Refuses rest := by
  refine refuses_firstOf ?_
  intro rule member
  obtain ⟨op, -, rfl⟩ := List.mem_map.mp member
  refine ((refuses_word ?_).bind).named _
  rintro ⟨after, split⟩
  have stop : op.symbol ∈ phraseStops := ends op.symbol (by simp [← split])
  revert stop
  cases op <;> decide

theorem ensures_operator : operator.Ensures fun op text => text = [op.symbol] := by
  refine ensures_firstOf ?_
  intro rule member
  obtain ⟨op, -, rfl⟩ := List.mem_map.mp member
  refine (((ensures_word _).bind fun _ => ensures_pure op).mono ?_).named _
  rintro _ _ ⟨_, first, _, rfl, rfl, rfl, rfl⟩
  simp

theorem reads_literal {l : Literal} (wf : l.WellFormed) {rest : List Char}
    (noDigit : ∀ c ∈ rest.head?, c.isDigit = false) (noPoint : ∀ c ∈ rest.head?, c ≠ '.') :
    literal.Reads l.text l rest := by
  obtain ⟨whole, pointed, fraction⟩ := l
  obtain ⟨wholeDigits, fractionDigits, unpointed, someDigit⟩ := wf
  simp only at wholeDigits fractionDigits unpointed someDigit
  have behindWhole : ∀ c ∈ ('.' :: (fraction ++ rest)).head?, c.isDigit = false :=
    forall_mem_head?_cons (by decide) (fraction ++ rest)
  apply Reads.named
  by_cases empty : whole = []
  · -- Only the second alternative begins with the point.
    have nonempty : fraction ≠ [] := by simpa [empty] using someDigit
    have pointSet : pointed = true := by
      cases pointed with
      | false => exact absurd (unpointed rfl) nonempty
      | true => rfl
    subst empty pointSet
    have fractionRead := reads_nonemptySpan nonempty fractionDigits noDigit
    refine Refuses.orElse_reads (refuses_nonemptySpan behindWhole).bind ?_
    exact (reads_word ['.'] _).bind (fractionRead.bind_nil (reads_pure _ rest))
  · apply Reads.orElse
    cases pointed with
    | true =>
      have wholeRead := reads_nonemptySpan empty wholeDigits behindWhole
      have pointRead := (reads_word ['.'] (fraction ++ rest)).present
      have fractionRead := reads_span fractionDigits noDigit
      exact wholeRead.bind (pointRead.bind (fractionRead.bind_nil (reads_pure _ rest)))
    | false =>
      obtain rfl := unpointed rfl
      have noPointWord : ¬ ['.'] <+: rest := by
        rintro ⟨after, split⟩
        exact noPoint '.' (by simp [← split]) rfl
      have wholeRead := reads_nonemptySpan empty wholeDigits noDigit
      have pointRead := (refuses_word noPointWord).present
      have nothing : (pure [] >>= fun fraction => pure ⟨whole, false, fraction⟩ :
          Rule Literal).Reads [] ⟨whole, false, []⟩ rest :=
        (reads_pure [] rest).bind_nil (reads_pure _ rest)
      simpa [Literal.text] using wholeRead.bind_nil (pointRead.bind_nil nothing)

theorem refuses_literal {text : List Char} (noDigit : ∀ c ∈ text.head?, c.isDigit = false)
    (noPoint : ∀ c ∈ text.head?, c ≠ '.') : literal.Refuses text := by
  have noPointWord : ¬ ['.'] <+: text := by
    rintro ⟨after, split⟩
    exact noPoint '.' (by simp [← split]) rfl
  exact ((refuses_nonemptySpan noDigit).bind.orElse (refuses_word noPointWord).bind).named _

theorem ensures_fraction (whole : List Char) (pointed : Bool) :
    (if pointed then span Char.isDigit >>= fun fraction => pure ⟨whole, pointed, fraction⟩
      else pure [] >>= fun fraction => pure ⟨whole, pointed, fraction⟩ : Rule Literal).Ensures
        fun l text => l = ⟨whole, pointed, text⟩ ∧ (∀ c ∈ text, c.isDigit = true) ∧
          (pointed = false → text = []) := by
  cases pointed with
  | true =>
    refine (ensures_span.bind fun fraction => ensures_pure (Literal.mk whole true fraction)).mono ?_
    rintro _ _ ⟨fraction, _, _, rfl, ⟨rfl, digits⟩, rfl, rfl⟩
    simpa using digits
  | false =>
    refine ((ensures_pure []).bind fun fraction =>
      ensures_pure (Literal.mk whole false fraction)).mono ?_
    rintro _ _ ⟨fraction, _, _, rfl, ⟨rfl, rfl⟩, rfl, rfl⟩
    simp

theorem ensures_literal : literal.Ensures fun l text => l.WellFormed ∧ l.text = text := by
  apply Ensures.named
  apply Ensures.orElse
  · refine (ensures_nonemptySpan.bind fun whole => (ensures_word ['.']).present.bind fun pointed =>
      ensures_fraction whole pointed).mono ?_
    rintro _ _ ⟨whole, _, _, rfl, ⟨rfl, nonempty, wholeDigits⟩, pointed, point, fraction, rfl,
      pointHolds, rfl, fractionDigits, unpointed⟩
    refine ⟨⟨wholeDigits, fractionDigits, unpointed, .inl nonempty⟩, ?_⟩
    cases pointed with
    | true => simp_all [Literal.text]
    | false => simp_all [Literal.text]
  · refine ((ensures_word ['.']).bind fun _ => ensures_nonemptySpan.bind fun fraction =>
      ensures_pure (Literal.mk [] true fraction)).mono ?_
    rintro _ _ ⟨_, _, _, rfl, rfl, fraction, _, _, rfl, ⟨rfl, nonempty, fractionDigits⟩, rfl, rfl⟩
    exact ⟨⟨by simp, fractionDigits, by simp, .inr nonempty⟩, by simp [Literal.text]⟩

theorem reads_variableName {letters : List Char} (isName : IsName letters) {rest : List Char}
    (ends : ∀ c ∈ rest.head?, Text.isAlphabetic c = false) :
    variableName.Reads letters letters rest :=
  (reads_nonemptySpan isName.nonempty isName.alphabetic ends).named _

theorem refuses_variableName {text : List Char}
    (ends : ∀ c ∈ text.head?, Text.isAlphabetic c = false) : variableName.Refuses text :=
  (refuses_nonemptySpan ends).named _

theorem ensures_variableName :
    variableName.Ensures fun letters text => IsName letters ∧ letters = text := by
  refine (ensures_nonemptySpan.mono ?_).named _
  rintro letters _ ⟨rfl, nonempty, alphabetic⟩
  exact ⟨⟨nonempty, alphabetic⟩, rfl⟩

theorem reads_functionName (f : NamedFunction) (rest : List Char) :
    functionName.Reads f.name.toList f ('(' :: rest) := by
  apply Reads.named
  refine reads_firstOf_map f.mem_all ((reads_word f.name.toList _).bind_nil (reads_pure f _)) ?_
  intro other apart
  exact (refuses_word (function_name_apart apart rest)).bind

theorem ensures_functionName : functionName.Ensures fun f text => text = f.name.toList := by
  apply Ensures.named
  refine ensures_firstOf ?_
  intro rule member
  obtain ⟨f, -, rfl⟩ := List.mem_map.mp member
  refine ((ensures_word _).bind fun _ => ensures_pure f).mono ?_
  rintro _ _ ⟨_, first, _, rfl, rfl, rfl, rfl⟩
  simp

theorem settles_functionName : functionName.Settles := by
  apply Settles.named
  refine settles_firstOf ?_
  intro rule member
  obtain ⟨f, -, rfl⟩ := List.mem_map.mp member
  exact (settles_word _).bind fun _ => settles_pure f

end Grammar

end FormulaNumerics.Syntax
