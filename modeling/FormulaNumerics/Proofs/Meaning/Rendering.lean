import FormulaNumerics.Proofs.Meaning.Layers

set_option autoImplicit false

namespace FormulaNumerics

namespace Text

-- A run of letters is a word in front of a parenthesis and a name elsewhere.
structure Rendering (α : Type) where
  name : List Char → List α
  word : List Char → List α
  symbol : Char → List α

namespace Rendering

open Syntax

variable {α : Type} (r : Rendering α)

def run (letters after : List Char) : List α :=
  if letters = [] then []
  else if after.head? = some '(' then r.word letters
  else r.name letters

-- The run of letters that ends where the text begins is in `letters`.
def renderAfter (letters : List Char) : List Char → List α
  | [] => r.run letters []
  | c :: rest =>
    if isAlphabetic c then renderAfter (letters ++ [c]) rest
    else r.run letters (c :: rest) ++ (r.symbol c ++ renderAfter [] rest)

def render (text : List Char) : List α :=
  r.renderAfter [] text

@[simp] theorem run_nil (after : List Char) : r.run [] after = [] := rfl

@[simp] theorem render_nil : r.render [] = [] := rfl

theorem renderAfter_letters {word : List Char} (alphabetic : ∀ c ∈ word, isAlphabetic c = true)
    (letters rest : List Char) :
    r.renderAfter letters (word ++ rest) = r.renderAfter (letters ++ word) rest := by
  induction word generalizing letters with
  | nil => simp
  | cons c word ih =>
    obtain ⟨letter, others⟩ := List.forall_mem_cons.mp alphabetic
    simp [renderAfter, letter, ih others]

theorem render_cons {c : Char} (noLetter : isAlphabetic c = false) (rest : List Char) :
    r.render (c :: rest) = r.symbol c ++ r.render rest := by
  simp [render, renderAfter, noLetter]

theorem render_symbols {symbols : List Char} (noLetter : ∀ c ∈ symbols, isAlphabetic c = false)
    (rest : List Char) :
    r.render (symbols ++ rest) = symbols.flatMap r.symbol ++ r.render rest := by
  induction symbols with
  | nil => rfl
  | cons c symbols ih =>
    obtain ⟨first, others⟩ := List.forall_mem_cons.mp noLetter
    rw [List.cons_append, r.render_cons first, ih others, List.flatMap_cons, List.append_assoc]

theorem render_run {letters : List Char} (alphabetic : ∀ c ∈ letters, isAlphabetic c = true)
    {rest : List Char} (ends : ∀ c ∈ rest.head?, isAlphabetic c = false) :
    r.render (letters ++ rest) = r.run letters rest ++ r.render rest := by
  rw [render, r.renderAfter_letters alphabetic, List.nil_append]
  cases rest with
  | nil => simp [renderAfter]
  | cons c rest => simp [render, renderAfter, ends c rfl]

theorem render_name {letters : List Char} (isName : IsName letters) {rest : List Char}
    (ends : StopsAt operandStops rest) :
    r.render (letters ++ rest) = r.name letters ++ r.render rest := by
  have noCall : rest.head? ≠ some '(' :=
    fun first => (operandStops_spec (ends '(' first)).2.2.2 rfl
  rw [r.render_run isName.alphabetic ends.not_alphabetic, run, if_neg isName.nonempty,
    if_neg noCall]

theorem render_word {letters : List Char} (isName : IsName letters) (rest : List Char) :
    r.render (letters ++ '(' :: rest) = r.word letters ++ (r.symbol '(' ++ r.render rest) := by
  have ends : ∀ c ∈ ('(' :: rest).head?, isAlphabetic c = false :=
    forall_mem_head?_cons (by decide) rest
  rw [r.render_run isName.alphabetic ends, run, if_neg isName.nonempty,
    if_pos List.head?_cons, r.render_cons (by decide)]

section

variable {P : Char → Prop} {Q : α → Prop}
  (names : ∀ letters, (∀ c ∈ letters, P c) → ∀ x ∈ r.name letters, Q x)
  (words : ∀ letters, (∀ c ∈ letters, P c) → ∀ x ∈ r.word letters, Q x)
  (symbols : ∀ c, P c → ∀ x ∈ r.symbol c, Q x)

include names words

theorem forall_mem_run {letters : List Char} (read : ∀ c ∈ letters, P c) (after : List Char) :
    ∀ x ∈ r.run letters after, Q x := by
  unfold run
  split
  next => simp
  next =>
    split
    next => exact words letters read
    next => exact names letters read

include symbols

theorem forall_mem_renderAfter {letters text : List Char} (read : ∀ c ∈ letters, P c)
    (unread : ∀ c ∈ text, P c) : ∀ x ∈ r.renderAfter letters text, Q x := by
  induction text generalizing letters with
  | nil => exact r.forall_mem_run names words read []
  | cons c rest ih =>
    obtain ⟨first, others⟩ := List.forall_mem_cons.mp unread
    unfold renderAfter
    split
    next =>
      refine ih ?_ others
      exact List.forall_mem_append.mpr ⟨read, List.forall_mem_singleton.mpr first⟩
    next =>
      have before := r.forall_mem_run names words read (c :: rest)
      have behind := ih (List.forall_mem_nil P) others
      exact List.forall_mem_append.mpr
        ⟨before, List.forall_mem_append.mpr ⟨symbols c first, behind⟩⟩

end

end Rendering

end Text

namespace Syntax.Derivation

variable {α : Type} (r : Text.Rendering α)

def rendered : {l : Layer} → Derivation l → List α
  | _, single operand => operand.rendered
  | _, more run op _ operand => run.rendered ++ (r.symbol op.symbol ++ operand.rendered)
  | _, plain primary => primary.rendered
  | _, negated primary => r.symbol '-' ++ primary.rendered
  | _, number literal _ => literal.text.flatMap r.symbol
  | _, name letters _ => r.name letters
  | _, group inner => r.symbol '(' ++ (inner.rendered ++ r.symbol ')')
  | _, call function argument =>
    r.word function.name.toList ++ (r.symbol '(' ++ (argument.rendered ++ r.symbol ')'))
  | _, log base value =>
    r.word ['l', 'o', 'g'] ++ (r.symbol '(' ++ (base.rendered ++
      (r.symbol ',' ++ (value.rendered ++ r.symbol ')'))))

-- What follows a part of a text ends its last run of letters, so parts are rendered by themselves.
theorem render_text_append {l : Layer} (d : Derivation l) {rest : List Char}
    (ends : StopsAt operandStops rest) :
    r.render (d.text ++ rest) = d.rendered r ++ r.render rest := by
  have closing (after : List Char) : StopsAt operandStops (')' :: after) :=
    (stopsAt_cons (by decide)).operand
  have comma (after : List Char) : StopsAt operandStops (',' :: after) :=
    (stopsAt_cons (by decide)).operand
  have opens (after : List Char) : r.render ('(' :: after) = r.symbol '(' ++ r.render after :=
    r.render_cons (by decide) after
  have closes (after : List Char) : r.render (')' :: after) = r.symbol ')' ++ r.render after :=
    r.render_cons (by decide) after
  induction d generalizing rest with
  | single operand ih => exact ih ends
  | more run op atLevel operand runRendered operandRendered =>
    have symbol := (operandStops_spec (stopsAt_operator op [] op.symbol rfl)).2.1
    have whole := runRendered (stopsAt_operator op (operand.text ++ rest))
    rw [r.render_cons symbol, operandRendered ends] at whole
    simpa [text, rendered] using whole
  | plain primary ih => exact ih ends
  | negated primary ih =>
    rw [text, rendered, List.cons_append, r.render_cons (by decide), ih ends, List.append_assoc]
  | number literal wf => exact r.render_symbols wf.not_alphabetic rest
  | name letters wf => exact r.render_name wf ends
  | group inner ih =>
    have whole := ih (closing rest)
    rw [closes] at whole
    simp [text, rendered, opens, whole]
  | call function argument ih =>
    have whole := r.render_word (isName_function function) (argument.text ++ ')' :: rest)
    rw [ih (closing rest), closes] at whole
    simpa [text, rendered] using whole
  | log base value baseRendered valueRendered =>
    have whole := r.render_word isName_log (base.text ++ ',' :: (value.text ++ ')' :: rest))
    rw [baseRendered (comma _), r.render_cons (by decide), valueRendered (closing rest),
      closes] at whole
    simpa [text, rendered] using whole

theorem render_text {l : Layer} (d : Derivation l) : r.render d.text = d.rendered r := by
  have whole := d.render_text_append r (stopsAt_nil operandStops)
  rwa [List.append_nil, Text.Rendering.render_nil, List.append_nil] at whole

end Syntax.Derivation

end FormulaNumerics
