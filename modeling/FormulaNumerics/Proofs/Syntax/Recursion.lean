import FormulaNumerics.Proofs.Syntax.Agreement
import FormulaNumerics.Proofs.Syntax.Halting

set_option autoImplicit false

namespace FormulaNumerics.Syntax

theorem peak_le_length (depth : Nat) (text : List Char) : peak depth text ≤ depth + text.length := by
  induction text generalizing depth with
  | nil => exact Nat.le_refl depth
  | cons c rest ih =>
    have one := depthAfter_le depth c
    have later := ih (depthAfter depth c)
    simp only [peak, List.length_cons]
    omega

structure Room (limit depth size : Nat) (text : List Char) : Prop where
  shallow : peak depth text ≤ limit
  short : text.length < size

namespace Room

variable {limit depth size : Nat} {text rest : List Char}

theorem depth_le (room : Room limit depth size text) : depth ≤ limit :=
  Nat.le_trans (le_peak depth text) room.shallow

theorem mono {size' : Nat} (room : Room limit depth size text) (more : size ≤ size') :
    Room limit depth size' text :=
  ⟨room.shallow, Nat.lt_of_lt_of_le room.short more⟩

theorem behind_open (room : Room limit depth (size + 1) ('(' :: rest)) :
    Room limit (depth + 1) size rest := by
  obtain ⟨shallow, short⟩ := room
  rw [peak_open] at shallow
  exact ⟨shallow, Nat.lt_of_succ_lt_succ short⟩

theorem behind_close (room : Room limit (depth + 1) size (')' :: rest)) :
    Room limit depth size rest := by
  obtain ⟨shallow, short⟩ := room
  rw [peak_close] at shallow
  exact ⟨Nat.le_trans (Nat.le_max_right _ _) shallow, Nat.lt_of_succ_lt short⟩

theorem behind_token (room : Room limit depth (size + 1) (text ++ rest)) (nonempty : text ≠ [])
    (plain : ∀ c ∈ text, c ≠ '(' ∧ c ≠ ')') : Room limit depth size rest := by
  obtain ⟨shallow, short⟩ := room
  rw [peak_plain plain] at shallow
  rw [List.length_append] at short
  have some := List.length_pos_iff.mpr nonempty
  exact ⟨shallow, by omega⟩

end Room

namespace Rule

variable {α : Type} {r s : Rule α} {limit depth size : Nat}

theorem Settles.agree_token {spec : α → List Char → Prop} (settles : r.Settles)
    (ensures : r.Ensures spec) (token : ∀ (value : α) (text : List Char), spec value text →
      text ≠ [] ∧ ∀ c ∈ text, c ≠ '(' ∧ c ≠ ')') :
    r.Agree (Room limit depth (size + 1)) r (Room limit depth size) :=
  settles.agree ensures fun value text _ holds room =>
    room.behind_token (token value text holds).1 (token value text holds).2

theorem Settles.agree_within {spec : α → List Char → Prop} (settles : r.Settles)
    (ensures : r.Ensures spec) (token : ∀ (value : α) (text : List Char), spec value text →
      text ≠ [] ∧ ∀ c ∈ text, c ≠ '(' ∧ c ≠ ')') :
    r.Agree (Room limit depth size) r (Room limit depth size) :=
  (settles.agree_token ensures token).strengthen fun _ room => room.mono (Nat.le_succ size)

theorem agree_word {letters : List Char} (nonempty : letters ≠ [])
    (plain : ∀ c ∈ letters, c ≠ '(' ∧ c ≠ ')') :
    (word letters).Agree (Room limit depth size) (word letters) (Room limit depth size) :=
  (settles_word letters).agree_within (ensures_word letters) fun _ _ same =>
    same ▸ ⟨nonempty, plain⟩

theorem agree_open : (word ['(']).Agree (Room limit depth (size + 1)) (word ['('])
    (Room limit (depth + 1) size) :=
  (settles_word _).agree (ensures_word _) fun _ _ _ same room => (same ▸ room).behind_open

theorem agree_close : (word [')']).Agree (Room limit (depth + 1) size) (word [')'])
    (Room limit depth size) :=
  (settles_word _).agree (ensures_word _) fun _ _ _ same room => (same ▸ room).behind_close

theorem Agree.rounds {more more' : Rule (List α)}
    (one : r.Agree (Room limit depth (size + 1)) s (Room limit depth size))
    (others : more.Agree (Room limit depth size) more' (Room limit depth size)) :
    (rounds r more).Agree (Room limit depth (size + 1)) (rounds s more')
      (Room limit depth (size + 1)) := by
  refine Agree.orElse ?_ (agree_pure [])
  refine one.bind fun value => ?_
  refine (others.weaken fun _ room => room.mono (Nat.le_succ size)).bind fun values => ?_
  exact agree_pure _

end Rule

namespace Grammar

open Rule

def phraseWith (inner : Rule Phrase) (others : Rule (List (Operator × Operand))) : Rule Phrase :=
  named .expression do
    let first ← operand inner
    let rest ← others
    pure (.mk first rest)

def wholeWith (phrase : Rule Phrase) : Rule Phrase := do
  let p ← phrase
  named .endOfInput atEnd
  pure p

-- The two rules call themselves and each other as often as a text asks for it.
structure Unlimited (phrase : Rule Phrase) (others : Rule (List (Operator × Operand))) : Prop where
  phrase_eq : phrase = phraseWith phrase others
  others_eq : others = rounds (entry phrase) others

-- The rules are told how many levels and how much fuel are left.
structure Stages (fuel : Nat) (phrases : Nat → Rule Phrase)
    (others : Nat → Nat → Rule (List (Operator × Operand))) : Prop where
  phrase_succ : ∀ levels : Nat,
    phrases (levels + 1) = phraseWith (phrases levels) (others levels fuel)
  others_succ : ∀ levels left : Nat,
    others levels (left + 1) = rounds (entry (phrases levels)) (others levels left)

theorem stages_phrase (fuel : Nat) :
    Stages fuel (phrase fuel) fun levels left => repeated left (entry (phrase fuel levels)) :=
  ⟨fun _ => rfl, fun levels left => repeated_succ left (entry (phrase fuel levels))⟩

theorem Unlimited.stages {phrase : Rule Phrase} {others : Rule (List (Operator × Operand))}
    (unlimited : Unlimited phrase others) (fuel : Nat) :
    Stages fuel (fun _ => phrase) fun _ _ => others :=
  ⟨fun _ => unlimited.phrase_eq, fun _ _ => unlimited.others_eq⟩

section Tokens

variable {limit depth size : Nat}

theorem settles_operator : operator.Settles := by
  refine settles_firstOf ?_
  intro rule member
  obtain ⟨op, -, rfl⟩ := List.mem_map.mp member
  exact ((settles_word _).bind fun _ => settles_pure op).named _

theorem settles_literal : literal.Settles := by
  apply Settles.named
  apply Settles.orElse
  · refine (settles_nonemptySpan _).bind fun whole => ?_
    refine (settles_present (settles_word _)).bind fun pointed => ?_
    cases pointed with
    | true => exact (settles_span _).bind fun fraction => settles_pure _
    | false => exact (settles_pure []).bind fun fraction => settles_pure _
  · exact (settles_word _).bind fun _ => (settles_nonemptySpan _).bind fun fraction => settles_pure _

theorem agree_operator :
    operator.Agree (Room limit depth size) operator (Room limit depth size) := by
  refine settles_operator.agree_within ensures_operator ?_
  rintro op _ rfl
  exact ⟨List.cons_ne_nil _ _, List.forall_mem_singleton.mpr (by cases op <;> decide)⟩

theorem agree_functionName :
    functionName.Agree (Room limit depth size) functionName (Room limit depth size) := by
  refine settles_functionName.agree_within ensures_functionName ?_
  rintro f _ rfl
  exact ⟨(isName_function f).nonempty, (isName_function f).plain⟩

theorem agree_literal :
    literal.Agree (Room limit depth (size + 1)) literal (Room limit depth size) := by
  refine settles_literal.agree_token ensures_literal ?_
  rintro l _ ⟨wf, rfl⟩
  obtain ⟨c, tail, spelled, -⟩ := wf.head
  exact ⟨by simp [spelled], wf.plain⟩

theorem agree_variableName :
    variableName.Agree (Room limit depth (size + 1)) variableName (Room limit depth size) := by
  refine ((settles_nonemptySpan _).named _).agree_token ensures_variableName ?_
  rintro letters _ ⟨isName, rfl⟩
  exact ⟨isName.nonempty, isName.plain⟩

end Tokens

section Nonterminals

variable {limit depth size : Nat} {inner inner' : Rule Phrase}
  (inside : inner.Agree (Room limit (depth + 1) size) inner' (Room limit (depth + 1) size))

include inside

theorem agree_logarithm : (logarithm inner).Agree (Room limit depth (size + 1)) (logarithm inner')
    (Room limit depth size) := by
  refine Agree.named _ ?_
  refine (agree_word (by simp) (by simp)).bind fun _ => ?_
  refine agree_open.bind fun _ => ?_
  refine inside.bind fun b => ?_
  refine (agree_word (by simp) (by simp)).bind fun _ => ?_
  refine inside.bind fun v => ?_
  exact agree_close.bind fun _ => agree_pure _

theorem agree_functionCall : (functionCall inner).Agree (Room limit depth (size + 1))
    (functionCall inner') (Room limit depth size) := by
  refine Agree.named _ ?_
  refine agree_functionName.bind fun f => ?_
  refine agree_open.bind fun _ => ?_
  refine inside.bind fun p => ?_
  exact agree_close.bind fun _ => agree_pure _

theorem agree_group : (group inner).Agree (Room limit depth (size + 1)) (group inner')
    (Room limit depth size) := by
  refine agree_open.bind fun _ => ?_
  refine inside.bind fun p => ?_
  exact agree_close.bind fun _ => agree_pure _

theorem agree_primary : (primary inner).Agree (Room limit depth (size + 1)) (primary inner')
    (Room limit depth size) := by
  refine (agree_logarithm inside).orElse ?_
  refine (agree_functionCall inside).orElse ?_
  refine (agree_literal.map Primary.number).orElse ?_
  refine (agree_variableName.map Primary.name).orElse ?_
  exact (agree_group inside).orElse agree_fail

theorem agree_operand : (operand inner).Agree (Room limit depth (size + 1)) (operand inner')
    (Room limit depth size) := by
  have minus : (named .negation (word ['-'])).Agree (Room limit depth (size + 1))
      (named .negation (word ['-'])) (Room limit depth (size + 1)) :=
    (agree_word (by simp) (by simp)).named _
  have sign : (present (named .negation (word ['-']))).Agree (Room limit depth (size + 1))
      (present (named .negation (word ['-']))) (Room limit depth (size + 1)) :=
    (minus.bind fun _ => agree_pure true).orElse (agree_pure false)
  refine sign.bind fun negative => ?_
  exact (agree_primary inside).bind fun q => agree_pure _

theorem agree_entry : (entry inner).Agree (Room limit depth (size + 1)) (entry inner')
    (Room limit depth size) := by
  refine agree_operator.bind fun op => ?_
  exact (agree_operand inside).bind fun o => agree_pure _

theorem agree_phraseWith {others others' : Rule (List (Operator × Operand))}
    (behind : others.Agree (Room limit depth size) others' (Room limit depth size)) :
    (phraseWith inner others).Agree (Room limit depth (size + 1)) (phraseWith inner' others')
      (Room limit depth (size + 1)) := by
  refine Agree.named _ ?_
  refine (agree_operand inside).bind fun first => ?_
  refine (behind.weaken fun _ room => room.mono (Nat.le_succ size)).bind fun rest => ?_
  exact agree_pure _

end Nonterminals

section Levels

variable {limit depth size fuel fuel' : Nat}

-- Each round reads something, so that a text is used up before the fuel is.
theorem agree_rounds {α : Type} {r s : Rule α} (more more' : Nat → Rule (List α))
    (unfolds : ∀ left : Nat, more (left + 1) = rounds r (more left))
    (unfolds' : ∀ left : Nat, more' (left + 1) = rounds s (more' left))
    (enough : size ≤ fuel) (enough' : size ≤ fuel')
    (one : ∀ k < size, r.Agree (Room limit depth (k + 1)) s (Room limit depth k)) :
    (more fuel).Agree (Room limit depth size) (more' fuel') (Room limit depth size) := by
  induction size generalizing fuel fuel' with
  | zero => exact fun c f room => absurd room.short (Nat.not_lt_zero _)
  | succ size ih =>
    obtain ⟨left, rfl⟩ : ∃ left, fuel = left + 1 := ⟨fuel - 1, by omega⟩
    obtain ⟨left', rfl⟩ : ∃ left', fuel' = left' + 1 := ⟨fuel' - 1, by omega⟩
    rw [unfolds, unfolds']
    refine (one size (Nat.lt_succ_self size)).rounds ?_
    exact ih (by omega) (by omega) fun k within => one k (Nat.lt_succ_of_lt within)

theorem Stages.agree {phrases phrases' : Nat → Rule Phrase}
    {others others' : Nat → Nat → Rule (List (Operator × Operand))}
    (stages : Stages fuel phrases others) (stages' : Stages fuel' phrases' others')
    {levels levels' : Nat} (enough : size ≤ fuel + 1) (enough' : size ≤ fuel' + 1)
    (deep : limit < depth + levels) (deep' : limit < depth + levels') :
    (phrases levels).Agree (Room limit depth size) (phrases' levels') (Room limit depth size) := by
  induction levels generalizing levels' depth size with
  | zero => exact fun c f room => absurd room.depth_le (by omega)
  | succ levels ih =>
    cases levels' with
    | zero => exact fun c f room => absurd room.depth_le (by omega)
    | succ levels' =>
      cases size with
      | zero => exact fun c f room => absurd room.short (Nat.not_lt_zero _)
      | succ size =>
        have inside (k : Nat) (within : k ≤ size) : (phrases levels).Agree
            (Room limit (depth + 1) k) (phrases' levels') (Room limit (depth + 1) k) :=
          ih (by omega) (by omega) (by omega) (by omega)
        rw [stages.phrase_succ, stages'.phrase_succ]
        refine agree_phraseWith (inside size (Nat.le_refl size)) ?_
        refine agree_rounds (others levels) (others' levels') (stages.others_succ levels)
          (stages'.others_succ levels') (by omega) (by omega) fun k within => ?_
        exact agree_entry (inside k (Nat.le_of_lt within))

theorem Unlimited.agree {phrase : Rule Phrase} {others : Rule (List (Operator × Operand))}
    (unlimited : Unlimited phrase others) {levels : Nat} (enough : size ≤ fuel + 1)
    (deep : limit < depth + levels) : (Grammar.phrase fuel levels).Agree (Room limit depth size)
      phrase (Room limit depth size) :=
  (stages_phrase fuel).agree (unlimited.stages fuel) enough enough deep deep

end Levels

section Existence

def diagonal {α : Type} (family : Nat → Rule α) : Rule α :=
  ⟨fun c f => (family (c.rest.length + 1)).run c f⟩

-- A text has no more levels and no more operands than it has characters.
def unlimitedPhrase : Rule Phrase :=
  diagonal fun size => phrase size size

def unlimitedOthers : Rule (List (Operator × Operand)) :=
  diagonal fun size => repeated size (entry (phrase size size))

variable {limit depth size fuel levels : Nat}

theorem agree_diagonal {α : Type} {r : Rule α} {family : Nat → Rule α}
    (each : ∀ k bound : Nat, k ≤ size → bound ≤ limit → bound < depth + k →
      r.Agree (Room bound depth k) (family k) (Room bound depth k)) :
    r.Agree (Room limit depth size) (diagonal family) (Room limit depth size) := by
  intro c f room
  have length := peak_le_length depth c.rest
  have here : Room (min limit (depth + c.rest.length)) depth (c.rest.length + 1) c.rest :=
    ⟨Nat.le_min.mpr ⟨room.shallow, length⟩, Nat.lt_succ_self _⟩
  have all := (each (c.rest.length + 1) (min limit (depth + c.rest.length)) room.short
    (Nat.min_le_left _ _) (by omega)).weaken fun text found => Room.mono
      ⟨Nat.le_trans found.shallow (Nat.min_le_left _ _), found.short⟩ room.short
  exact all c f here

theorem agree_unlimitedPhrase (enough : size ≤ fuel + 1) (deep : limit < depth + levels) :
    (phrase fuel levels).Agree (Room limit depth size) unlimitedPhrase (Room limit depth size) :=
  agree_diagonal fun k bound within _ _ =>
    (stages_phrase fuel).agree (stages_phrase k) (by omega) (by omega) (by omega) (by omega)

theorem agree_unlimitedOthers (enough : size ≤ fuel) (deep : limit ≤ depth + levels) {left : Nat}
    (some : size ≤ left) :
    (repeated left (entry (phrase fuel levels))).Agree (Room limit depth size) unlimitedOthers
      (Room limit depth size) := by
  refine agree_diagonal fun k bound within _ _ => ?_
  refine agree_rounds (repeated · (entry (phrase fuel levels))) (repeated · (entry (phrase k k)))
    (repeated_succ · _) (repeated_succ · _) (by omega) (Nat.le_refl k) fun j fewer => ?_
  refine agree_entry ?_
  exact (stages_phrase fuel).agree (stages_phrase k) (by omega) (by omega) (by omega) (by omega)

theorem unlimited_unlimitedPhrase : Unlimited unlimitedPhrase unlimitedOthers := by
  have room (c : Cursor) : Room c.rest.length 0 (c.rest.length + 1) c.rest := by
    have length := peak_le_length 0 c.rest
    exact ⟨by omega, Nat.lt_succ_self _⟩
  have inside (n levels : Nat) (deep : n ≤ levels) : (phrase (n + 1) levels).Agree
      (Room n (0 + 1) n) unlimitedPhrase (Room n (0 + 1) n) :=
    agree_unlimitedPhrase (by omega) (by omega)
  have behind (n levels left : Nat) (deep : n ≤ levels) (some : n ≤ left) :
      (repeated left (entry (phrase (n + 1) levels))).Agree (Room n 0 n) unlimitedOthers
        (Room n 0 n) :=
    agree_unlimitedOthers (Nat.le_succ n) (by omega) some
  constructor
  · refine eq_of_run fun c f => ?_
    have all := agree_phraseWith (inside c.rest.length c.rest.length (Nat.le_refl _))
      (behind c.rest.length c.rest.length (c.rest.length + 1) (Nat.le_refl _) (Nat.le_succ _))
    exact (all c f (room c)).1
  · refine eq_of_run fun c f => ?_
    have all := Agree.rounds (agree_entry (inside c.rest.length _ (Nat.le_succ _)))
      (behind c.rest.length _ c.rest.length (Nat.le_succ _) (Nat.le_refl _))
    rw [← repeated_succ] at all
    exact (all c f (room c)).1

end Existence

end Grammar

open Grammar Rule

theorem run_whole_eq_unlimited {text : List Char} {phrase : Rule Phrase}
    {others : Rule (List (Operator × Operand))}
    (shallow : overNested? maxNesting 0 0 text = none) (unlimited : Unlimited phrase others) :
    (whole text.length (maxNesting + 1)).run (.start text) .start ≠ .tooDeep ∧
      (whole text.length (maxNesting + 1)).run (.start text) .start =
        (wholeWith phrase).run (.start text) .start := by
  have room : Room maxNesting 0 (text.length + 1) text :=
    ⟨(overNested?_eq_none_iff 0 text (Nat.zero_le maxNesting)).mp shallow, Nat.lt_succ_self _⟩
  have phrases : (Grammar.phrase text.length (maxNesting + 1)).Agree
      (Room maxNesting 0 (text.length + 1)) phrase (Room maxNesting 0 (text.length + 1)) :=
    unlimited.agree (Nat.le_refl _) (by omega)
  have behind (p : Phrase) : Settles (named .endOfInput atEnd >>= fun _ => pure p) :=
    (settles_atEnd.named _).bind fun _ => settles_pure p
  obtain ⟨same, leaves⟩ := phrases.bind (fun p => (behind p).agree_self) (.start text) .start room
  refine ⟨?_, same⟩
  intro deep
  change (wholeWith _).run _ _ = _ at deep
  unfold wholeWith at deep
  rw [deep] at leaves
  exact leaves

theorem run_unmatched_eq_unlimited :
    let text := "sin(1))+((2".toList
    overNested? maxNesting 0 0 text = none ∧ Unlimited unlimitedPhrase unlimitedOthers ∧
      (whole text.length (maxNesting + 1)).run (.start text) .start ≠ .tooDeep ∧
      (whole text.length (maxNesting + 1)).run (.start text) .start =
        (wholeWith unlimitedPhrase).run (.start text) .start := by
  intro text
  have shallow : overNested? maxNesting 0 0 text = none := by decide
  exact ⟨shallow, unlimited_unlimitedPhrase,
    run_whole_eq_unlimited shallow unlimited_unlimitedPhrase⟩

-- A level less is not enough, even for a text that turns out not to be a formula.
example : (whole 3 2).run (.start ['(', '(', '1']) .start = .tooDeep := rfl

end FormulaNumerics.Syntax
