import FormulaNumerics.Proofs.Syntax.Tokens
import FormulaNumerics.Syntax.Parse

set_option autoImplicit false

namespace FormulaNumerics.Syntax.Grammar

open Rule

section Primaries

variable (inner : Rule Phrase)

theorem refuses_opening {β : Type} (next : Unit → Rule β) {letters text : List Char}
    (noCall : ∀ after : List Char, text ≠ letters ++ '(' :: after) :
    (word letters >>= fun _ => word ['('] >>= next).Refuses text := by
  by_cases opens : letters <+: text
  · obtain ⟨rest, rfl⟩ := opens
    refine (reads_word letters rest).bind_refuses (refuses_word ?_).bind
    rintro ⟨after, rfl⟩
    exact noCall after rfl
  · exact (refuses_word opens).bind

theorem refuses_logarithm {text : List Char}
    (noCall : ∀ after : List Char, text ≠ ['l', 'o', 'g'] ++ '(' :: after) :
    (logarithm inner).Refuses text :=
  (refuses_opening _ noCall).named _

theorem refuses_functionCall {text : List Char}
    (noCall : ∀ (f : NamedFunction) (after : List Char), text ≠ f.name.toList ++ '(' :: after) :
    (functionCall inner).Refuses text := by
  refine (settles_functionName.bind_refuses ensures_functionName ?_).named _
  rintro f _ rest rfl rfl
  refine (refuses_word ?_).bind
  rintro ⟨after, rfl⟩
  exact noCall f after rfl

variable {inner}

theorem reads_number {l : Literal} (wf : l.WellFormed) {rest : List Char}
    (ends : StopsAt operandStops rest) : (primary inner).Reads l.text (.number l) rest := by
  have letterless := wf.head_not_alphabetic rest
  have noDigit : ∀ c ∈ rest.head?, c.isDigit = false :=
    fun c first => (operandStops_spec (ends c first)).1
  have noPoint : ∀ c ∈ rest.head?, c ≠ '.' :=
    fun c first => (operandStops_spec (ends c first)).2.2.1
  refine Refuses.orElse_reads (refuses_logarithm inner fun _ =>
    isName_log.ne_of_head letterless _) ?_
  refine Refuses.orElse_reads (refuses_functionCall inner fun f _ =>
    (isName_function f).ne_of_head letterless _) ?_
  exact ((reads_literal wf noDigit noPoint).map Primary.number).orElse

theorem reads_name {letters : List Char} (isName : IsName letters) {rest : List Char}
    (ends : StopsAt operandStops rest) : (primary inner).Reads letters (.name letters) rest := by
  obtain ⟨c, tail, rfl⟩ := List.exists_cons_of_ne_nil isName.nonempty
  have letter := isName.alphabetic c (by simp)
  have noDigit : ∀ c' ∈ (c :: tail ++ rest).head?, c'.isDigit = false := by
    intro c' first
    obtain rfl : c = c' := by simpa using first
    cases digit : c.isDigit with
    | false => rfl
    | true => simp [Text.isAlphabetic_of_isDigit digit] at letter
  have noPoint : ∀ c' ∈ (c :: tail ++ rest).head?, c' ≠ '.' := by
    rintro c' first rfl
    obtain rfl : c = '.' := by simpa using first
    exact absurd letter (by decide)
  refine Refuses.orElse_reads (refuses_logarithm inner fun _ =>
    isName.ne_of_rest isName_log ends _) ?_
  refine Refuses.orElse_reads (refuses_functionCall inner fun f _ =>
    isName.ne_of_rest (isName_function f) ends _) ?_
  refine Refuses.orElse_reads ((refuses_literal noDigit noPoint).map _) ?_
  exact ((reads_variableName isName ends.not_alphabetic).map Primary.name).orElse

theorem reads_group {p : Phrase} {rest : List Char}
    (innerReads : inner.Reads p.text p (')' :: rest)) :
    (primary inner).Reads (Primary.group p).text (.group p) rest := by
  have letterless : ∀ c ∈ ((Primary.group p).text ++ rest).head?, Text.isAlphabetic c = false :=
    forall_mem_head?_cons (by decide) _
  have noDigit : ∀ c ∈ ((Primary.group p).text ++ rest).head?, c.isDigit = false :=
    forall_mem_head?_cons (by decide) _
  have noPoint : ∀ c ∈ ((Primary.group p).text ++ rest).head?, c ≠ '.' :=
    forall_mem_head?_cons (by decide) _
  refine Refuses.orElse_reads (refuses_logarithm inner fun _ =>
    isName_log.ne_of_head letterless _) ?_
  refine Refuses.orElse_reads (refuses_functionCall inner fun f _ =>
    (isName_function f).ne_of_head letterless _) ?_
  refine Refuses.orElse_reads ((refuses_literal noDigit noPoint).map _) ?_
  refine Refuses.orElse_reads ((refuses_variableName letterless).map _) ?_
  refine Reads.orElse ?_
  exact (reads_word ['('] _).bind
    (innerReads.bind ((reads_word [')'] rest).bind_nil (reads_pure _ rest)))

theorem reads_call (f : NamedFunction) {p : Phrase} {rest : List Char}
    (innerReads : inner.Reads p.text p (')' :: rest)) :
    (primary inner).Reads (Primary.call f p).text (.call f p) rest := by
  have noLogarithm (after : List Char) :
      (Primary.call f p).text ++ rest ≠ ['l', 'o', 'g'] ++ '(' :: after := by
    cases f <;> simp [Primary.text, NamedFunction.name]
  refine Refuses.orElse_reads (refuses_logarithm inner noLogarithm) ?_
  refine Reads.orElse (Reads.named _ ?_)
  exact (reads_functionName f _).bind ((reads_word ['('] _).bind
    (innerReads.bind ((reads_word [')'] rest).bind_nil (reads_pure _ rest))))

theorem reads_log {b v : Phrase} {rest : List Char}
    (baseReads : inner.Reads b.text b (',' :: (v.text ++ [')'] ++ rest)))
    (valueReads : inner.Reads v.text v (')' :: rest)) :
    (primary inner).Reads (Primary.log b v).text (.log b v) rest := by
  refine Reads.orElse (Reads.named _ ?_)
  exact (reads_word ['l', 'o', 'g'] _).bind ((reads_word ['('] _).bind
    (baseReads.bind ((reads_word [','] _).bind
      (valueReads.bind ((reads_word [')'] rest).bind_nil (reads_pure _ rest))))))

theorem Primary.text_ne_minus {q : Primary} (wf : q.WellFormed) (rest : List Char) :
    ¬ ['-'] <+: q.text ++ rest := by
  rintro ⟨after, split⟩
  cases q with
  | number l =>
    obtain ⟨c, tail, spelled, digit | rfl⟩ := Literal.WellFormed.head wf
    · simp only [Primary.text, spelled, List.cons_append, List.nil_append, List.cons.injEq] at split
      obtain ⟨rfl, -⟩ := split
      exact absurd digit (by decide)
    · simp [Primary.text, spelled] at split
  | name letters =>
    have isName : IsName letters := wf
    obtain ⟨c, tail, rfl⟩ := List.exists_cons_of_ne_nil isName.nonempty
    have letter := isName.alphabetic c (by simp)
    simp only [Primary.text, List.cons_append, List.nil_append, List.cons.injEq] at split
    obtain ⟨rfl, -⟩ := split
    exact absurd letter (by decide)
  | group p => simp [Primary.text] at split
  | call f p => cases f <;> simp [Primary.text, NamedFunction.name] at split
  | log b v => simp [Primary.text] at split

end Primaries

section Completeness

theorem stopsAt_rest (others : List (Operator × Operand)) {rest : List Char}
    (ends : StopsAt phraseStops rest) : StopsAt operandStops (restText others ++ rest) := by
  cases others with
  | nil => exact ends.operand
  | cons entry others => exact stopsAt_operator entry.1 _

mutual

-- The fuel bounds the operands of one phrase, the levels those phrases that lie around each other.
theorem reads_phrase (fuel levels : Nat) (p : Phrase) (wf : p.WellFormed)
    (shallow : p.nesting ≤ levels) (short : p.text.length ≤ fuel) {rest : List Char}
    (ends : StopsAt phraseStops rest) : (phrase fuel (levels + 1)).Reads p.text p rest := by
  match p with
  | .mk first others =>
    simp only [Phrase.nesting, Nat.max_le] at shallow
    simp only [Phrase.text, List.length_append] at short
    have count := length_restText others
    have firstRead := reads_operand fuel levels first wf.1 shallow.1 (by omega)
      (stopsAt_rest others ends)
    have othersRead := collects_rest fuel levels others wf.2 shallow.2 (by omega) fuel (by omega)
      ends
    have made := reads_pure (Phrase.mk first others) rest
    exact (firstRead.bind (othersRead.repeated.bind_nil made)).named _

theorem reads_operand (fuel levels : Nat) (o : Operand) (wf : o.WellFormed)
    (shallow : o.nesting ≤ levels) (short : o.text.length ≤ fuel) {rest : List Char}
    (ends : StopsAt operandStops rest) : (operand (phrase fuel levels)).Reads o.text o rest := by
  match o with
  | .plain q =>
    have primaryRead := reads_primary fuel levels q wf shallow short ends
    have sign := ((refuses_word (Primary.text_ne_minus wf rest)).named .negation).present
    exact sign.bind (primaryRead.bind_nil (reads_pure _ rest))
  | .negated q =>
    simp only [Operand.text, List.length_cons] at short
    have primaryRead := reads_primary fuel levels q wf shallow (by omega) ends
    have sign := ((reads_word ['-'] (q.text ++ rest)).named .negation).present
    exact sign.bind (primaryRead.bind_nil (reads_pure _ rest))

theorem reads_primary (fuel levels : Nat) (q : Primary) (wf : q.WellFormed)
    (shallow : q.nesting ≤ levels) (short : q.text.length ≤ fuel) {rest : List Char}
    (ends : StopsAt operandStops rest) : (primary (phrase fuel levels)).Reads q.text q rest := by
  match q, levels with
  | .number l, _ => exact reads_number wf ends
  | .name letters, _ => exact reads_name wf ends
  | .group p, levels + 1 =>
    simp only [Primary.text, List.length_cons, List.length_append] at short
    exact reads_group (reads_phrase fuel levels p wf (by simpa [Primary.nesting] using shallow)
      (by omega) (stopsAt_cons (by decide)))
  | .call f p, levels + 1 =>
    simp only [Primary.text, List.length_cons, List.length_append] at short
    exact reads_call f (reads_phrase fuel levels p wf (by simpa [Primary.nesting] using shallow)
      (by omega) (stopsAt_cons (by decide)))
  | .log b v, levels + 1 =>
    simp only [Primary.text, List.length_cons, List.length_append] at short
    simp only [Primary.nesting, Nat.add_le_add_iff_right, Nat.max_le] at shallow
    exact reads_log
      (reads_phrase fuel levels b wf.1 shallow.1 (by omega) (stopsAt_cons (by decide)))
      (reads_phrase fuel levels v wf.2 shallow.2 (by omega) (stopsAt_cons (by decide)))

theorem collects_rest (fuel levels : Nat) (others : List (Operator × Operand))
    (wf : RestWellFormed others) (shallow : restNesting others ≤ levels)
    (short : (restText others).length ≤ fuel) (limit : Nat) (few : others.length ≤ limit)
    {rest : List Char} (ends : StopsAt phraseStops rest) :
    (operator >>= fun op => operand (phrase fuel levels) >>= fun next => pure (op, next)).Collects
      limit (restText others) others rest := by
  match others, limit with
  | [], _ => exact (refuses_operator ends).bind.collects
  | (op, o) :: others, limit + 1 =>
    simp only [restNesting, Nat.max_le] at shallow
    simp only [restText, List.length_cons, List.length_append] at short
    have operandRead := reads_operand fuel levels o wf.1 shallow.1 (by omega)
      (stopsAt_rest others ends)
    have othersRead := collects_rest fuel levels others wf.2 shallow.2 (by omega) limit
      (by simpa using few) ends
    exact Reads.collects ((reads_operator op _).bind (operandRead.bind_nil (reads_pure (op, o) _)))
      othersRead

end

end Completeness

section Soundness

theorem ensures_primary {inner : Rule Phrase}
    (innerEnsures : inner.Ensures fun p text => p.WellFormed ∧ p.text = text) :
    (primary inner).Ensures fun q text => q.WellFormed ∧ q.text = text := by
  refine ensures_firstOf ?_
  simp only [List.forall_mem_cons]
  refine ⟨?logarithm, ?functionCall, ?number, ?name, ?group, by simp⟩
  case logarithm =>
    refine (((ensures_word ['l', 'o', 'g']).bind fun _ => (ensures_word ['(']).bind fun _ =>
      innerEnsures.bind fun b => (ensures_word [',']).bind fun _ => innerEnsures.bind fun v =>
      (ensures_word [')']).bind fun _ => ensures_pure (Primary.log b v)).mono ?_).named _
    rintro _ _ ⟨_, _, _, rfl, rfl, _, _, _, rfl, rfl, b, _, _, rfl, ⟨baseFormed, rfl⟩, _, _, _, rfl,
      rfl, v, _, _, rfl, ⟨valueFormed, rfl⟩, _, _, _, rfl, rfl, rfl, rfl⟩
    exact ⟨⟨baseFormed, valueFormed⟩, by simp [Primary.text]⟩
  case functionCall =>
    refine ((ensures_functionName.bind fun f => (ensures_word ['(']).bind fun _ =>
      innerEnsures.bind fun p => (ensures_word [')']).bind fun _ =>
      ensures_pure (Primary.call f p)).mono ?_).named _
    rintro _ _ ⟨f, _, _, rfl, rfl, _, _, _, rfl, rfl, p, _, _, rfl, ⟨formed, rfl⟩, _, _, _, rfl,
      rfl, rfl, rfl⟩
    exact ⟨formed, by simp [Primary.text]⟩
  case number =>
    refine (ensures_literal.map Primary.number).mono ?_
    rintro _ _ ⟨l, rfl, formed, rfl⟩
    exact ⟨formed, rfl⟩
  case name =>
    refine (ensures_variableName.map Primary.name).mono ?_
    rintro _ _ ⟨letters, rfl, formed, rfl⟩
    exact ⟨formed, rfl⟩
  case group =>
    refine ((ensures_word ['(']).bind fun _ => innerEnsures.bind fun p =>
      (ensures_word [')']).bind fun _ => ensures_pure (Primary.group p)).mono ?_
    rintro _ _ ⟨_, _, _, rfl, rfl, p, _, _, rfl, ⟨formed, rfl⟩, _, _, _, rfl, rfl, rfl, rfl⟩
    exact ⟨formed, by simp [Primary.text]⟩

theorem ensures_operand {inner : Rule Phrase}
    (innerEnsures : inner.Ensures fun p text => p.WellFormed ∧ p.text = text) :
    (operand inner).Ensures fun o text => o.WellFormed ∧ o.text = text := by
  refine (((ensures_word ['-']).named .negation).present.bind fun negative =>
    (ensures_primary innerEnsures).bind fun q =>
    ensures_pure (if negative then Operand.negated q else Operand.plain q)).mono ?_
  rintro _ _ ⟨negative, sign, _, rfl, signHolds, q, _, _, rfl, ⟨formed, rfl⟩, rfl, rfl⟩
  cases negative with
  | true =>
    obtain rfl : sign = ['-'] := signHolds
    exact ⟨formed, by simp [Operand.text]⟩
  | false =>
    obtain rfl : sign = [] := signHolds
    exact ⟨formed, by simp [Operand.text]⟩

theorem restWellFormed_of_forall₂ {others : List (Operator × Operand)} {texts : List (List Char)}
    (each : List.Forall₂ (fun entry text => entry.2.WellFormed ∧
      entry.1.symbol :: entry.2.text = text) others texts) :
    RestWellFormed others ∧ restText others = texts.flatten := by
  induction each with
  | nil => exact ⟨trivial, rfl⟩
  | cons entry _ ih =>
    obtain ⟨formed, rfl⟩ := entry
    exact ⟨⟨formed, ih.1⟩, by simp [restText, ih.2]⟩

theorem ensures_phrase (fuel levels : Nat) :
    (phrase fuel levels).Ensures fun p text => p.WellFormed ∧ p.text = text := by
  induction levels with
  | zero =>
    intro c c' f f' p run
    simp [phrase] at run
  | succ levels innerEnsures =>
    have entries : (operator >>= fun op => operand (phrase fuel levels) >>= fun next =>
        pure (op, next)).Ensures fun entry text => entry.2.WellFormed ∧
          entry.1.symbol :: entry.2.text = text := by
      refine (ensures_operator.bind fun op => (ensures_operand innerEnsures).bind fun o =>
        ensures_pure (op, o)).mono ?_
      rintro _ _ ⟨op, _, _, rfl, rfl, o, _, _, rfl, ⟨formed, rfl⟩, rfl, rfl⟩
      exact ⟨formed, by simp⟩
    refine (((ensures_operand innerEnsures).bind fun first => entries.repeated.bind fun others =>
      ensures_pure (Phrase.mk first others)).mono ?_).named _
    rintro _ _ ⟨first, _, _, rfl, ⟨firstFormed, rfl⟩, others, _, _, rfl, ⟨texts, rfl, each⟩, rfl,
      rfl⟩
    obtain ⟨othersFormed, spelled⟩ := restWellFormed_of_forall₂ each
    exact ⟨⟨firstFormed, othersFormed⟩, by simp [Phrase.text, spelled]⟩

end Soundness

end FormulaNumerics.Syntax.Grammar

namespace FormulaNumerics.Syntax

open Rule

theorem recognize_text {levels : Nat} {p : Phrase} (wf : p.WellFormed)
    (shallow : p.nesting ≤ levels) : recognize (levels + 1) p.text = .ok p := by
  obtain ⟨f, run⟩ := Grammar.reads_phrase p.text.length levels p wf shallow (Nat.le_refl _)
    (stopsAt_nil _) 0 .start
  rw [List.append_nil] at run
  simp [recognize, Grammar.whole, run_bind, Cursor.start, run, run_named, atEnd]

theorem text_of_recognize {levels : Nat} {text : List Char} {p : Phrase}
    (h : recognize levels text = .ok p) : p.WellFormed ∧ p.text = text := by
  unfold recognize at h
  split at h
  next found c f run =>
    obtain rfl := Except.ok.inj h
    simp only [Grammar.whole, run_bind] at run
    cases inner : (Grammar.phrase text.length levels).run (.start text) .start with
    | matched value c' f' =>
      simp only [inner] at run
      cases ended : (named .endOfInput atEnd).run c' f' with
      | matched nothing c'' f'' =>
        simp only [ended, run_pure, Outcome.matched.injEq] at run
        obtain ⟨rfl, -, -⟩ := run
        obtain ⟨read, split, formed, rfl⟩ := Grammar.ensures_phrase _ _ _ _ _ _ _ inner
        rw [rest_of_atEnd ended, List.append_nil] at split
        exact ⟨formed, split.symm⟩
      | failed f'' => simp [ended] at run
      | tooDeep => simp [ended] at run
    | failed f' => simp [inner] at run
    | tooDeep => simp [inner] at run
  next => simp at h
  next => simp at h

end FormulaNumerics.Syntax
