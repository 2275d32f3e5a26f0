import FormulaNumerics.Proofs.Syntax.Tokens
import FormulaNumerics.Syntax.Nesting

set_option autoImplicit false

namespace FormulaNumerics.Syntax

-- The greatest number of parentheses open at once, if `depth` of them are open at first.
def peak (depth : Nat) : List Char → Nat
  | [] => depth
  | c :: rest => max depth (peak (depthAfter depth c) rest)

theorem le_peak (depth : Nat) (text : List Char) : depth ≤ peak depth text := by
  cases text with
  | nil => exact Nat.le_refl depth
  | cons c rest => exact Nat.le_max_left _ _

theorem peak_open (depth : Nat) (rest : List Char) :
    peak depth ('(' :: rest) = peak (depth + 1) rest := by
  have := le_peak (depth + 1) rest
  simp only [peak, depthAfter_open]
  omega

theorem peak_close (depth : Nat) (rest : List Char) :
    peak (depth + 1) (')' :: rest) = max (depth + 1) (peak depth rest) := by
  simp [peak]

theorem peak_of_ne (depth : Nat) {c : Char} (notOpen : c ≠ '(') (notClose : c ≠ ')')
    (rest : List Char) : peak depth (c :: rest) = peak depth rest := by
  have := le_peak depth rest
  simp only [peak, depthAfter_of_ne depth notOpen notClose]
  omega

theorem peak_plain {text : List Char} (plain : ∀ c ∈ text, c ≠ '(' ∧ c ≠ ')') (depth : Nat)
    (rest : List Char) : peak depth (text ++ rest) = peak depth rest := by
  induction text with
  | nil => rfl
  | cons c text ih =>
    obtain ⟨notOpen, notClose⟩ := plain c (by simp)
    rw [List.cons_append, peak_of_ne depth notOpen notClose]
    exact ih fun c' member => plain c' (by simp [member])

theorem IsName.plain {letters : List Char} (isName : IsName letters) :
    ∀ c ∈ letters, c ≠ '(' ∧ c ≠ ')' := by
  intro c member
  have letter := isName.alphabetic c member
  constructor
  · rintro rfl
    exact absurd letter (by decide)
  · rintro rfl
    exact absurd letter (by decide)

theorem Literal.WellFormed.plain {l : Literal} (wf : l.WellFormed) :
    ∀ c ∈ l.text, c ≠ '(' ∧ c ≠ ')' := by
  have digitPlain {c : Char} (digit : c.isDigit = true) : c ≠ '(' ∧ c ≠ ')' := by
    constructor
    · rintro rfl
      exact absurd digit (by decide)
    · rintro rfl
      exact absurd digit (by decide)
  intro c member
  rw [Literal.text, List.mem_append] at member
  cases member with
  | inl inWhole => exact digitPlain (wf.wholeDigits c inWhole)
  | inr behind =>
    cases pointed : l.pointed with
    | false => simp [pointed] at behind
    | true =>
      simp only [pointed, if_true, List.mem_cons] at behind
      obtain rfl | inFraction := behind
      · decide
      · exact digitPlain (wf.fractionDigits c inFraction)

theorem Operator.peak_symbol (op : Operator) (depth : Nat) (rest : List Char) :
    peak depth (op.symbol :: rest) = peak depth rest := by
  have apart : op.symbol ≠ '(' ∧ op.symbol ≠ ')' := by cases op <;> decide
  exact peak_of_ne depth apart.1 apart.2 rest

mutual

theorem peak_phrase (depth : Nat) (p : Phrase) (wf : p.WellFormed) (rest : List Char) :
    peak depth (p.text ++ rest) = max (depth + p.nesting) (peak depth rest) := by
  match p with
  | .mk first others =>
    rw [Phrase.text, List.append_assoc, peak_operand depth first wf.1,
      peak_rest depth others wf.2, Phrase.nesting]
    omega

theorem peak_operand (depth : Nat) (o : Operand) (wf : o.WellFormed) (rest : List Char) :
    peak depth (o.text ++ rest) = max (depth + o.nesting) (peak depth rest) := by
  match o with
  | .plain q => exact peak_primary depth q wf rest
  | .negated q =>
    have minus : peak depth ('-' :: (q.text ++ rest)) = peak depth (q.text ++ rest) :=
      Operator.peak_symbol .subtract depth _
    rw [Operand.text, List.cons_append, minus, peak_primary depth q wf, Operand.nesting]

theorem peak_primary (depth : Nat) (q : Primary) (wf : q.WellFormed) (rest : List Char) :
    peak depth (q.text ++ rest) = max (depth + q.nesting) (peak depth rest) := by
  have bound := le_peak depth rest
  match q with
  | .number l =>
    rw [Primary.text, peak_plain (Literal.WellFormed.plain wf), Primary.nesting]
    omega
  | .name letters =>
    rw [Primary.text, peak_plain (IsName.plain wf), Primary.nesting]
    omega
  | .group p =>
    rw [Primary.text, List.cons_append, peak_open, List.append_assoc, peak_phrase _ p wf,
      List.singleton_append, peak_close, Primary.nesting]
    omega
  | .call f p =>
    rw [Primary.text, List.append_assoc, peak_plain (isName_function f).plain, List.cons_append,
      peak_open, List.append_assoc, peak_phrase _ p wf, List.singleton_append, peak_close,
      Primary.nesting]
    omega
  | .log b v =>
    have comma (rest : List Char) : peak (depth + 1) (',' :: rest) = peak (depth + 1) rest :=
      peak_of_ne (depth + 1) (by decide) (by decide) rest
    rw [Primary.text, List.append_assoc,
      show ['l', 'o', 'g', '('] = ['l', 'o', 'g'] ++ ['('] from rfl, List.append_assoc,
      peak_plain isName_log.plain, List.singleton_append, peak_open, List.append_assoc,
      peak_phrase _ b wf.1, List.cons_append, comma, List.append_assoc, peak_phrase _ v wf.2,
      List.singleton_append, peak_close, Primary.nesting]
    omega

theorem peak_rest (depth : Nat) (others : List (Operator × Operand)) (wf : RestWellFormed others)
    (rest : List Char) :
    peak depth (restText others ++ rest) = max (depth + restNesting others) (peak depth rest) := by
  match others with
  | [] =>
    have bound := le_peak depth rest
    simp only [restText, List.nil_append, restNesting]
    omega
  | (op, o) :: others =>
    rw [restText, List.cons_append, Operator.peak_symbol, List.append_assoc,
      peak_operand depth o wf.1, peak_rest depth others wf.2, restNesting]
    omega

end

theorem Phrase.peak_text {p : Phrase} (wf : p.WellFormed) : peak 0 p.text = p.nesting := by
  have h := peak_phrase 0 p wf []
  rw [List.append_nil] at h
  simpa [peak] using h

theorem overNested?_eq_none_iff {limit depth : Nat} (position : Nat) (text : List Char)
    (start : depth ≤ limit) :
    overNested? limit depth position text = none ↔ peak depth text ≤ limit := by
  induction text generalizing depth position with
  | nil => simpa [overNested?, peak] using start
  | cons c rest ih =>
    have bound := le_peak (depthAfter depth c) rest
    simp only [overNested?, peak]
    by_cases exceeds : limit < depthAfter depth c
    · simp only [exceeds, if_true, reduceCtorEq, false_iff]
      omega
    · rw [if_neg exceeds, ih (position + 1) (Nat.le_of_not_lt exceeds)]
      omega

theorem overNested?_eq_some {limit depth position found : Nat} {text : List Char}
    (start : depth ≤ limit) (h : overNested? limit depth position text = some found) :
    ∃ before after : List Char, text = before ++ '(' :: after ∧ found = position + before.length ∧
      peak depth before ≤ limit ∧ limit < peak depth (before ++ ['(']) := by
  induction text generalizing depth position with
  | nil => simp [overNested?] at h
  | cons c rest ih =>
    simp only [overNested?] at h
    by_cases exceeds : limit < depthAfter depth c
    · rw [if_pos exceeds, Option.some.injEq] at h
      have isOpen : c = '(' := by
        by_contra notOpen
        by_cases isClose : c = ')'
        · subst isClose
          rw [depthAfter_close] at exceeds
          omega
        · rw [depthAfter_of_ne depth notOpen isClose] at exceeds
          omega
      subst isOpen
      refine ⟨[], rest, rfl, by simp [h], start, ?_⟩
      simp only [List.nil_append, peak]
      omega
    · rw [if_neg exceeds] at h
      obtain ⟨before, after, rfl, rfl, within, beyond⟩ := ih (Nat.le_of_not_lt exceeds) h
      refine ⟨c :: before, after, rfl, ?_, ?_, ?_⟩
      · rw [List.length_cons]
        omega
      · simp only [peak]
        omega
      · simp only [List.cons_append, peak]
        omega

end FormulaNumerics.Syntax
