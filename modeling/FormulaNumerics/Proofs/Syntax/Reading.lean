import FormulaNumerics.Syntax.Rule
import Mathlib.Data.List.Forall2
import Mathlib.Data.List.TakeWhile

set_option autoImplicit false

namespace FormulaNumerics.Syntax.Rule

variable {α β : Type}

def Reads (r : Rule α) (text : List Char) (value : α) (rest : List Char) : Prop :=
  ∀ (position : Nat) (f : Frontier), ∃ f' : Frontier,
    r.run ⟨position, text ++ rest⟩ f = .matched value ⟨position + text.length, rest⟩ f'

def Refuses (r : Rule α) (text : List Char) : Prop :=
  ∀ (position : Nat) (f : Frontier), ∃ f' : Frontier, r.run ⟨position, text⟩ f = .failed f'

def Ensures (r : Rule α) (spec : α → List Char → Prop) : Prop :=
  ∀ (c c' : Cursor) (f f' : Frontier) (value : α), r.run c f = .matched value c' f' →
    ∃ text : List Char, c.rest = text ++ c'.rest ∧ spec value text

-- A rule that looks at single characters only is never too deep.
def Settles (r : Rule α) : Prop :=
  ∀ (c : Cursor) (f : Frontier), r.run c f ≠ .tooDeep

section Sequences

variable {r : Rule α} {next : α → Rule β}

theorem reads_pure (value : α) (rest : List Char) : (pure value : Rule α).Reads [] value rest := by
  intro position f
  exact ⟨f, rfl⟩

theorem Reads.bind {first second rest : List Char} {value : α} {result : β}
    (left : r.Reads first value (second ++ rest)) (right : (next value).Reads second result rest) :
    (r >>= next).Reads (first ++ second) result rest := by
  intro position f
  obtain ⟨f', leftRun⟩ := left position f
  obtain ⟨f'', rightRun⟩ := right (position + first.length) f'
  refine ⟨f'', ?_⟩
  rw [run_bind, List.append_assoc, leftRun, List.length_append, ← Nat.add_assoc]
  exact rightRun

theorem Reads.bind_nil {text rest : List Char} {value : α} {result : β}
    (left : r.Reads text value rest) (right : (next value).Reads [] result rest) :
    (r >>= next).Reads text result rest := by
  have both : (r >>= next).Reads (text ++ []) result rest := Reads.bind left right
  simpa using both

theorem Reads.map {text rest : List Char} {value : α} (g : α → β) (h : r.Reads text value rest) :
    (g <$> r).Reads text (g value) rest := by
  intro position f
  obtain ⟨f', run⟩ := h position f
  exact ⟨f', by rw [run_map, run]⟩

theorem Refuses.bind {text : List Char} (h : r.Refuses text) : (r >>= next).Refuses text := by
  intro position f
  obtain ⟨f', run⟩ := h position f
  exact ⟨f', by rw [run_bind, run]⟩

theorem Reads.bind_refuses {first rest : List Char} {value : α} (left : r.Reads first value rest)
    (right : (next value).Refuses rest) : (r >>= next).Refuses (first ++ rest) := by
  intro position f
  obtain ⟨f', leftRun⟩ := left position f
  obtain ⟨f'', rightRun⟩ := right (position + first.length) f'
  exact ⟨f'', by rw [run_bind, leftRun]; exact rightRun⟩

theorem Refuses.map {text : List Char} (g : α → β) (h : r.Refuses text) :
    (g <$> r).Refuses text := by
  intro position f
  obtain ⟨f', run⟩ := h position f
  exact ⟨f', by rw [run_map, run]⟩

theorem ensures_pure (value : α) :
    (pure value : Rule α).Ensures fun result text => result = value ∧ text = [] := by
  intro c c' f f' result run
  simp only [run_pure, Outcome.matched.injEq] at run
  obtain ⟨rfl, rfl, rfl⟩ := run
  exact ⟨[], rfl, rfl, rfl⟩

theorem Ensures.mono {spec spec' : α → List Char → Prop} (h : r.Ensures spec)
    (weaker : ∀ (value : α) (text : List Char), spec value text → spec' value text) :
    r.Ensures spec' := by
  intro c c' f f' value run
  obtain ⟨text, split, holds⟩ := h c c' f f' value run
  exact ⟨text, split, weaker value text holds⟩

theorem Ensures.bind {spec : α → List Char → Prop} {spec' : α → β → List Char → Prop}
    (left : r.Ensures spec) (right : ∀ value : α, (next value).Ensures (spec' value)) :
    (r >>= next).Ensures fun result text => ∃ (value : α) (first second : List Char),
      text = first ++ second ∧ spec value first ∧ spec' value result second := by
  intro c c'' f f'' result run
  rw [run_bind] at run
  cases leftRun : r.run c f with
  | matched value c' f' =>
    rw [leftRun] at run
    obtain ⟨first, leftSplit, leftHolds⟩ := left c c' f f' value leftRun
    obtain ⟨second, rightSplit, rightHolds⟩ := right value c' c'' f' f'' result run
    refine ⟨first ++ second, ?_, value, first, second, rfl, leftHolds, rightHolds⟩
    rw [leftSplit, rightSplit, List.append_assoc]
  | failed f' => simp [leftRun] at run
  | tooDeep => simp [leftRun] at run

theorem Ensures.map {spec : α → List Char → Prop} (g : α → β) (h : r.Ensures spec) :
    (g <$> r).Ensures fun result text => ∃ value : α, result = g value ∧ spec value text := by
  intro c c' f f' result run
  rw [run_map] at run
  cases inner : r.run c f with
  | matched value c₁ f₁ =>
    simp only [inner, Outcome.matched.injEq] at run
    obtain ⟨rfl, rfl, rfl⟩ := run
    obtain ⟨text, split, holds⟩ := h c c₁ f f₁ value inner
    exact ⟨text, split, value, rfl, holds⟩
  | failed f₁ => simp [inner] at run
  | tooDeep => simp [inner] at run

-- Where the second rule refuses behind each match of the first, it does not matter which it is.
theorem Settles.bind_refuses {spec : α → List Char → Prop} {text : List Char} (settles : r.Settles)
    (ensures : r.Ensures spec) (refused : ∀ (value : α) (first rest : List Char),
      text = first ++ rest → spec value first → (next value).Refuses rest) :
    (r >>= next).Refuses text := by
  intro position f
  rw [run_bind]
  cases run : r.run ⟨position, text⟩ f with
  | matched value c' f' =>
    obtain ⟨first, split, holds⟩ := ensures _ _ _ _ _ run
    exact refused value first c'.rest split holds c'.position f'
  | failed f' => exact ⟨f', rfl⟩
  | tooDeep => exact absurd run (settles _ _)

theorem Settles.bind (left : r.Settles) (right : ∀ value : α, (next value).Settles) :
    (r >>= next).Settles := by
  intro c f
  rw [run_bind]
  cases run : r.run c f with
  | matched value c' f' => exact right value c' f'
  | failed f' => simp
  | tooDeep => exact absurd run (left _ _)

theorem settles_pure (value : α) : (pure value : Rule α).Settles := by
  intro c f
  simp

end Sequences

section Choices

variable {r s : Rule α}

theorem Reads.orElse {text rest : List Char} {value : α} (h : r.Reads text value rest) :
    (r.orElse s).Reads text value rest := by
  intro position f
  obtain ⟨f', run⟩ := h position f
  exact ⟨f', by rw [run_orElse, run]⟩

theorem Refuses.orElse_reads {text rest : List Char} {value : α}
    (refused : r.Refuses (text ++ rest))
    (h : s.Reads text value rest) : (r.orElse s).Reads text value rest := by
  intro position f
  obtain ⟨f', leftRun⟩ := refused position f
  obtain ⟨f'', rightRun⟩ := h position f'
  exact ⟨f'', by rw [run_orElse, leftRun]; exact rightRun⟩

theorem Refuses.orElse {text : List Char} (left : r.Refuses text) (right : s.Refuses text) :
    (r.orElse s).Refuses text := by
  intro position f
  obtain ⟨f', leftRun⟩ := left position f
  obtain ⟨f'', rightRun⟩ := right position f'
  exact ⟨f'', by rw [run_orElse, leftRun]; exact rightRun⟩

theorem Ensures.orElse {spec : α → List Char → Prop} (left : r.Ensures spec)
    (right : s.Ensures spec) : (r.orElse s).Ensures spec := by
  intro c c' f f' value run
  rw [run_orElse] at run
  cases leftRun : r.run c f with
  | matched found c₁ f₁ =>
    rw [leftRun] at run
    exact left c c' f f' value (leftRun.trans run)
  | failed f₁ =>
    rw [leftRun] at run
    exact right c c' f₁ f' value run
  | tooDeep => simp [leftRun] at run

theorem Settles.orElse (left : r.Settles) (right : s.Settles) : (r.orElse s).Settles := by
  intro c f
  rw [run_orElse]
  cases run : r.run c f with
  | matched value c' f' => simp
  | failed f' => exact right c f'
  | tooDeep => exact absurd run (left _ _)

theorem refuses_firstOf {rs : List (Rule α)} {text : List Char}
    (each : ∀ r ∈ rs, r.Refuses text) : (firstOf rs).Refuses text := by
  induction rs with
  | nil => exact fun _ f => ⟨f, rfl⟩
  | cons r rs ih =>
    exact (each r (by simp)).orElse (ih fun s member => each s (by simp [member]))

theorem ensures_firstOf {rs : List (Rule α)} {spec : α → List Char → Prop}
    (each : ∀ r ∈ rs, r.Ensures spec) : (firstOf rs).Ensures spec := by
  induction rs with
  | nil => intro c c' f f' value run; simp at run
  | cons r rs ih =>
    exact (each r (by simp)).orElse (ih fun s member => each s (by simp [member]))

theorem settles_firstOf {rs : List (Rule α)} (each : ∀ r ∈ rs, r.Settles) :
    (firstOf rs).Settles := by
  induction rs with
  | nil => intro c f; simp
  | cons r rs ih =>
    exact (each r (by simp)).orElse (ih fun s member => each s (by simp [member]))

-- The order of the alternatives is without effect where all but one refuse.
theorem reads_firstOf_map {ι : Type} {rule : ι → Rule α} {items : List ι} {item : ι}
    {text rest : List Char} {value : α} (member : item ∈ items)
    (reads : (rule item).Reads text value rest)
    (others : ∀ other : ι, other ≠ item → (rule other).Refuses (text ++ rest)) :
    (firstOf (items.map rule)).Reads text value rest := by
  induction items with
  | nil => simp at member
  | cons head tail ih =>
    by_cases same : head = item
    · subst same
      exact reads.orElse
    · have later : item ∈ tail := by simpa [Ne.symm same] using member
      exact (others head same).orElse_reads (ih later)

theorem Reads.present {r : Rule Unit} {text rest : List Char} (h : r.Reads text () rest) :
    (present r).Reads text true rest := by
  have found : (r >>= fun _ => yield true).Reads text true rest := h.bind_nil (reads_pure true rest)
  exact found.orElse

theorem Refuses.present {r : Rule Unit} {rest : List Char} (h : r.Refuses rest) :
    (present r).Reads [] false rest := by
  have missing : (r >>= fun _ => yield true).Refuses rest := h.bind
  exact missing.orElse_reads (reads_pure false rest)

theorem Ensures.present {r : Rule Unit} {spec : Unit → List Char → Prop} (h : r.Ensures spec) :
    (present r).Ensures fun found text => if found then spec () text else text = [] := by
  apply Ensures.orElse
  · refine (h.bind fun _ => ensures_pure true).mono ?_
    rintro _ _ ⟨_, first, _, rfl, holds, rfl, rfl⟩
    simpa using holds
  · refine (ensures_pure false).mono ?_
    rintro _ _ ⟨rfl, rfl⟩
    simp

end Choices

section Names

variable {r : Rule α} (e : Expectation)

theorem Reads.named {text rest : List Char} {value : α} (h : r.Reads text value rest) :
    (named e r).Reads text value rest := by
  intro position f
  obtain ⟨f', run⟩ := h position f
  exact ⟨f', by rw [run_named, run]⟩

theorem Refuses.named {text : List Char} (h : r.Refuses text) : (named e r).Refuses text := by
  intro position f
  obtain ⟨f', run⟩ := h position f
  simp only [run_named, run]
  split
  · exact ⟨_, rfl⟩
  · exact ⟨_, rfl⟩

theorem Ensures.named {spec : α → List Char → Prop} (h : r.Ensures spec) :
    (named e r).Ensures spec := by
  intro c c' f f' value run
  rw [run_named] at run
  cases inner : r.run c f with
  | matched found c₁ f₁ =>
    rw [inner] at run
    exact h c c' f f' value (inner.trans run)
  | failed f₁ =>
    simp only [inner] at run
    split at run <;> simp at run
  | tooDeep => simp [inner] at run

theorem Settles.named (h : r.Settles) : (named e r).Settles := by
  intro c f
  rw [run_named]
  cases run : r.run c f with
  | matched value c' f' => simp
  | failed f' => simp only []; split <;> simp
  | tooDeep => exact absurd run (h _ _)

end Names

section Characters

theorem reads_word (letters rest : List Char) : (word letters).Reads letters () rest := by
  intro position f
  refine ⟨f, ?_⟩
  simp [word, Cursor.advance]

theorem refuses_word {letters text : List Char} (h : ¬ letters <+: text) :
    (word letters).Refuses text := by
  intro position f
  refine ⟨f, ?_⟩
  simp [word, h]

theorem ensures_word (letters : List Char) :
    (word letters).Ensures fun _ text => text = letters := by
  intro c c' f f' value run
  simp only [word] at run
  split at run
  next opens =>
    simp only [Outcome.matched.injEq] at run
    obtain ⟨-, rfl, -⟩ := run
    obtain ⟨rest, split⟩ := List.isPrefixOf_iff_prefix.mp opens
    exact ⟨letters, by simp [Cursor.advance, ← split], rfl⟩
  next => simp at run

theorem settles_word (letters : List Char) : (word letters).Settles := by
  intro c f
  simp only [word]
  split <;> simp

variable {belongs : Char → Bool}

theorem reads_span {text rest : List Char} (inside : ∀ c ∈ text, belongs c = true)
    (ends : ∀ c ∈ rest.head?, belongs c = false) : (span belongs).Reads text text rest := by
  intro position f
  refine ⟨f, ?_⟩
  have restTaken : rest.takeWhile belongs = [] := by
    cases rest with
    | nil => rfl
    | cons c rest => simp [ends c rfl]
  have restDropped : rest.dropWhile belongs = rest := by
    cases rest with
    | nil => rfl
    | cons c rest => simp [ends c rfl]
  simp only [span, List.takeWhile_append_of_pos inside, List.dropWhile_append_of_pos inside,
    restTaken, restDropped, List.append_nil]

theorem ensures_span :
    (span belongs).Ensures fun found text => found = text ∧ ∀ c ∈ text, belongs c = true := by
  intro c c' f f' found run
  simp only [span, Outcome.matched.injEq] at run
  obtain ⟨rfl, rfl, rfl⟩ := run
  refine ⟨c.rest.takeWhile belongs, List.takeWhile_append_dropWhile.symm, rfl, ?_⟩
  intro letter member
  exact List.mem_takeWhile_imp member

theorem reads_nonemptySpan {text rest : List Char} (nonempty : text ≠ [])
    (inside : ∀ c ∈ text, belongs c = true) (ends : ∀ c ∈ rest.head?, belongs c = false) :
    (nonemptySpan belongs).Reads text text rest := by
  refine (reads_span inside ends).bind_nil ?_
  rw [if_neg (by simpa using nonempty)]
  exact reads_pure text rest

theorem refuses_nonemptySpan {text : List Char} (ends : ∀ c ∈ text.head?, belongs c = false) :
    (nonemptySpan belongs).Refuses text := by
  have nothing : (span belongs).Reads [] [] text := reads_span (by simp) ends
  exact nothing.bind_refuses fun _ f => ⟨f, rfl⟩

theorem ensures_nonemptySpan :
    (nonemptySpan belongs).Ensures fun found text =>
      found = text ∧ text ≠ [] ∧ ∀ c ∈ text, belongs c = true := by
  intro c c' f f' found run
  change (span belongs >>= fun found => if found.isEmpty then fail else yield found).run c f = _
    at run
  rw [run_bind] at run
  obtain ⟨text, split, rfl, inside⟩ := ensures_span c _ f f _ rfl
  simp only [span] at run
  cases taken : c.rest.takeWhile belongs with
  | nil => simp [taken] at run
  | cons letter letters =>
    simp only [taken, List.isEmpty_cons, Bool.false_eq_true, if_false, run_yield,
      Outcome.matched.injEq] at run
    obtain ⟨rfl, rfl, rfl⟩ := run
    rw [taken] at split inside
    exact ⟨letter :: letters, split, rfl, by simp, inside⟩

theorem rest_of_atEnd {e : Expectation} {c c' : Cursor} {f f' : Frontier} {value : Unit}
    (run : (named e atEnd).run c f = .matched value c' f') : c.rest = [] := by
  rw [run_named] at run
  cases rest : c.rest with
  | nil => rfl
  | cons letter letters =>
    simp only [atEnd, rest, List.isEmpty_cons, Bool.false_eq_true, if_false] at run
    split at run <;> simp at run

end Characters

section Repetitions

variable {r : Rule α} {fuel : Nat}

def Collects (r : Rule α) (fuel : Nat) (text : List Char) (values : List α) (rest : List Char) :
    Prop :=
  ∀ (found : List α) (position : Nat) (f : Frontier), ∃ f' : Frontier,
    r.collect fuel found ⟨position, text ++ rest⟩ f =
      .matched (found.reverse ++ values) ⟨position + text.length, rest⟩ f'

theorem Refuses.collects {rest : List Char} (h : r.Refuses rest) : r.Collects fuel [] [] rest := by
  intro found position f
  cases fuel with
  | zero => exact ⟨f, by simp [collect]⟩
  | succ fuel =>
    obtain ⟨f', run⟩ := h position f
    exact ⟨f', by simp [collect, run]⟩

theorem Reads.collects {first second rest : List Char} {value : α} {values : List α}
    (h : r.Reads first value (second ++ rest)) (others : r.Collects fuel second values rest) :
    r.Collects (fuel + 1) (first ++ second) (value :: values) rest := by
  intro found position f
  obtain ⟨f', firstRun⟩ := h position f
  obtain ⟨f'', othersRun⟩ := others (value :: found) (position + first.length) f'
  refine ⟨f'', ?_⟩
  simp only [collect, List.append_assoc, firstRun, othersRun]
  simp [Nat.add_assoc]

theorem Collects.repeated {text rest : List Char} {values : List α}
    (h : r.Collects fuel text values rest) : (repeated fuel r).Reads text values rest := by
  intro position f
  exact h [] position f

theorem Ensures.of_collect {spec : α → List Char → Prop} (h : r.Ensures spec) {c c' : Cursor}
    {f f' : Frontier} {found values : List α}
    (run : r.collect fuel found c f = .matched values c' f') :
    ∃ (later : List α) (texts : List (List Char)), values = found.reverse ++ later ∧
      c.rest = texts.flatten ++ c'.rest ∧ List.Forall₂ spec later texts := by
  induction fuel generalizing found c f with
  | zero =>
    simp only [collect, Outcome.matched.injEq] at run
    obtain ⟨rfl, rfl, rfl⟩ := run
    exact ⟨[], [], by simp, by simp, .nil⟩
  | succ fuel ih =>
    simp only [collect] at run
    cases first : r.run c f with
    | matched value c₁ f₁ =>
      rw [first] at run
      obtain ⟨text, firstSplit, firstHolds⟩ := h c c₁ f f₁ value first
      obtain ⟨later, texts, rfl, laterSplit, laterHold⟩ := ih run
      refine ⟨value :: later, text :: texts, by simp, ?_, .cons firstHolds laterHold⟩
      rw [firstSplit, laterSplit, List.flatten_cons, List.append_assoc]
    | failed f₁ =>
      simp only [first, Outcome.matched.injEq] at run
      obtain ⟨rfl, rfl, rfl⟩ := run
      exact ⟨[], [], by simp, by simp, .nil⟩
    | tooDeep => simp [first] at run

theorem Ensures.repeated {spec : α → List Char → Prop} (h : r.Ensures spec) :
    (repeated fuel r).Ensures fun values text =>
      ∃ texts : List (List Char), text = texts.flatten ∧ List.Forall₂ spec values texts := by
  intro c c' f f' values run
  obtain ⟨later, texts, rfl, split, holds⟩ := h.of_collect run
  exact ⟨texts.flatten, split, texts, rfl, holds⟩

end Repetitions

end FormulaNumerics.Syntax.Rule
