import FormulaNumerics.Syntax.Rule

set_option autoImplicit false

namespace FormulaNumerics.Syntax

namespace Frontier

def addAll (f : Frontier) (position : Nat) (entries : List Expectation) : Frontier :=
  entries.foldl (fun f e => f.record position (f.countAt position) e) f

@[simp] theorem addAll_nil (f : Frontier) (position : Nat) : f.addAll position [] = f := rfl

theorem addAll_append (f : Frontier) (position : Nat) (left right : List Expectation) :
    f.addAll position (left ++ right) = (f.addAll position left).addAll position right :=
  List.foldl_append

theorem record_self (position : Nat) (expected : List Expectation) (kept : Nat)
    (e : Expectation) :
    (⟨position, expected⟩ : Frontier).record position kept e =
      ⟨position, expected.take kept ++ [e]⟩ := by
  simp [record]

theorem addAll_self (position : Nat) (expected entries : List Expectation) :
    (⟨position, expected⟩ : Frontier).addAll position entries =
      ⟨position, expected ++ entries⟩ := by
  induction entries generalizing expected with
  | nil => simp
  | cons e entries ih =>
    have first : (⟨position, expected⟩ : Frontier).addAll position (e :: entries) =
        (⟨position, expected ++ [e]⟩ : Frontier).addAll position entries := by
      simp [addAll, record, countAt]
    rw [first, ih, List.append_assoc, List.singleton_append]

theorem addAll_of_gt {f : Frontier} {position : Nat} (h : position < f.position)
    (entries : List Expectation) : f.addAll position entries = f := by
  induction entries with
  | nil => rfl
  | cons e entries ih =>
    rw [← List.singleton_append, addAll_append]
    have first : f.addAll position [e] = f := record_of_lt _ e h
    rw [first, ih]

theorem addAll_of_lt {f : Frontier} {position : Nat} (h : f.position < position)
    {entries : List Expectation} (nonempty : entries ≠ []) :
    f.addAll position entries = ⟨position, entries⟩ := by
  cases entries with
  | nil => exact absurd rfl nonempty
  | cons e entries =>
    rw [← List.singleton_append, addAll_append]
    have first : f.addAll position [e] = ⟨position, [e]⟩ := record_of_gt _ e h
    rw [first, addAll_self]

theorem position_addAll_le {f : Frontier} {position : Nat} (h : f.position ≤ position)
    (entries : List Expectation) : (f.addAll position entries).position ≤ position := by
  obtain ⟨place, expected⟩ := f
  cases entries with
  | nil => exact h
  | cons e entries =>
    obtain before | rfl := Nat.lt_or_eq_of_le h
    · have moved := addAll_of_lt before (List.cons_ne_nil e entries)
      exact Nat.le_of_eq (congrArg Frontier.position moved)
    · have joined := addAll_self place expected (e :: entries)
      exact Nat.le_of_eq (congrArg Frontier.position joined :)

theorem record_addAll (f : Frontier) (position : Nat) (entries : List Expectation)
    (e : Expectation) :
    (f.addAll position entries).record position (f.countAt position) e = f.addAll position [e] := by
  obtain ⟨place, expected⟩ := f
  obtain before | rfl | beyond := Nat.lt_trichotomy place position
  · have none : (⟨place, expected⟩ : Frontier).countAt position = 0 :=
      countAt_of_ne (Nat.ne_of_gt before)
    cases entries with
    | nil => rfl
    | cons e' entries =>
      rw [addAll_of_lt before (List.cons_ne_nil e' entries),
        addAll_of_lt before (List.cons_ne_nil e []), none, record_self, List.take_zero,
        List.nil_append]
  · simp [addAll_self, record_self, countAt]
  · rw [addAll_of_gt beyond, addAll_of_gt beyond, record_of_lt _ e beyond]

theorem countAt_addAll (f : Frontier) {position : Nat} (h : f.position ≤ position)
    (entries : List Expectation) :
    (f.addAll position entries).countAt position = f.countAt position + entries.length := by
  obtain ⟨place, expected⟩ := f
  obtain before | rfl := Nat.lt_or_eq_of_le h
  · cases entries with
    | nil => rfl
    | cons e entries =>
      have none : (⟨place, expected⟩ : Frontier).countAt position = 0 :=
        countAt_of_ne (Nat.ne_of_gt before)
      rw [addAll_of_lt before (List.cons_ne_nil e entries), none]
      simp [countAt]
  · rw [addAll_self]
    simp [countAt]

abbrev Mark := Nat → Frontier → Prop

def AtMost : Mark := fun position f => f.position ≤ position

def Before : Mark := fun position f => f.position < position

def Exactly (entries : List Expectation) : Mark := fun position f => f = ⟨position, entries⟩

theorem Before.atMost {position : Nat} {f : Frontier} (h : Before position f) :
    AtMost position f :=
  Nat.le_of_lt h

theorem Exactly.atMost {entries : List Expectation} {position : Nat} {f : Frontier}
    (h : Exactly entries position f) : AtMost position f :=
  Nat.le_of_eq (congrArg Frontier.position h)

end Frontier

namespace Rule

open Frontier

variable {α β : Type}

-- The rule fails without having got further than its beginning.
def Fails (r : Rule α) (text : List Char) (entries : List Expectation) : Prop :=
  ∀ (position : Nat) (f : Frontier),
    r.run ⟨position, text⟩ f = .failed (f.addAll position entries)

-- The rule matches without having looked for anything further on.
def Takes (r : Rule α) (text : List Char) (value : α) (rest : List Char)
    (entries : List Expectation) : Prop :=
  ∀ (position : Nat) (f : Frontier), r.run ⟨position, text ++ rest⟩ f =
    .matched value ⟨position + text.length, rest⟩ (f.addAll position entries)

def Leaves (pre : Mark) (r : Rule α) (text : List Char) (value : α) (rest : List Char)
    (post : Mark) : Prop :=
  ∀ (position : Nat) (f : Frontier), pre position f → ∃ f' : Frontier,
    r.run ⟨position, text ++ rest⟩ f = .matched value ⟨position + text.length, rest⟩ f' ∧
      post (position + text.length) f'

-- The rule fails, or it stops in front of one of the `heads`, which nothing behind it can match.
-- Either way the frontier is what it will be in the end.
def Broken (heads : List Char) (frontier : Frontier) : Outcome α → Prop
  | .failed f => f = frontier
  | .matched _ c f =>
    f = frontier ∧ c.position < frontier.position ∧ ∃ h ∈ heads, c.rest.head? = some h
  | .tooDeep => False

def Breaks (pre : Mark) (heads : List Char) (r : Rule α) (read : List Char)
    (entries : List Expectation) (rest : List Char) : Prop :=
  ∀ (position : Nat) (f : Frontier), pre position f →
    Broken heads ⟨position + read.length, entries⟩ (r.run ⟨position, read ++ rest⟩ f)

section Tokens

variable {r s : Rule α} {next : α → Rule β} {text rest : List Char} {value : α}
  {entries : List Expectation}

theorem takes_pure (value : α) (rest : List Char) :
    (pure value : Rule α).Takes [] value rest [] := by
  intro position f
  rfl

theorem fails_fail (text : List Char) : (fail : Rule α).Fails text [] := by
  intro position f
  rfl

theorem Fails.bind (h : r.Fails text entries) : (r >>= next).Fails text entries := by
  intro position f
  rw [run_bind, h position f]

theorem Fails.map (g : α → β) (h : r.Fails text entries) : (g <$> r).Fails text entries := by
  intro position f
  rw [run_map, h position f]

theorem Takes.bind_fails {entries' : List Expectation} (left : r.Takes [] value text entries)
    (right : (next value).Fails text entries') :
    (r >>= next).Fails text (entries ++ entries') := by
  intro position f
  have leftRun := left position f
  rw [List.nil_append] at leftRun
  rw [run_bind, leftRun, addAll_append]
  exact right position (f.addAll position entries)

-- Only what a token looks for at its own beginning is recorded, so the token before it is silent.
theorem Takes.bind_silent {read : List Char} (left : r.Takes read value text [])
    (right : (next value).Fails text []) : (r >>= next).Fails (read ++ text) [] := by
  intro position f
  rw [run_bind, left position f]
  exact right (position + read.length) f

theorem Takes.bind {first second : List Char} {result : β}
    (left : r.Takes first value (second ++ rest) [])
    (right : (next value).Takes second result rest []) :
    (r >>= next).Takes (first ++ second) result rest [] := by
  intro position f
  rw [run_bind, List.append_assoc, left position f, List.length_append, ← Nat.add_assoc]
  exact right (position + first.length) f

theorem Takes.bind_nil {result : β} (left : r.Takes text value rest [])
    (right : (next value).Takes [] result rest []) : (r >>= next).Takes text result rest [] := by
  have both : (r >>= next).Takes (text ++ []) result rest [] := left.bind right
  rwa [List.append_nil] at both

theorem Takes.bind_pure (g : α → β) (h : r.Takes text value rest entries) :
    (r >>= fun found => pure (g found)).Takes text (g value) rest entries := by
  intro position f
  simp only [run_bind, h position f, run_pure]

theorem Takes.map (g : α → β) (h : r.Takes text value rest entries) :
    (g <$> r).Takes text (g value) rest entries := by
  intro position f
  rw [run_map, h position f]

theorem Takes.orElse (h : r.Takes text value rest entries) :
    (r.orElse s).Takes text value rest entries := by
  intro position f
  rw [run_orElse, h position f]

theorem Fails.orElse {entries' : List Expectation} (left : r.Fails text entries)
    (right : s.Fails text entries') : (r.orElse s).Fails text (entries ++ entries') := by
  intro position f
  rw [run_orElse, left position f, addAll_append]
  exact right position (f.addAll position entries)

theorem Fails.orElse_takes {entries' : List Expectation} (left : r.Fails (text ++ rest) entries)
    (right : s.Takes text value rest entries') :
    (r.orElse s).Takes text value rest (entries ++ entries') := by
  intro position f
  rw [run_orElse, left position f, addAll_append]
  exact right position (f.addAll position entries)

theorem Takes.named (e : Expectation) (h : r.Takes text value rest entries) :
    (named e r).Takes text value rest entries := by
  intro position f
  rw [run_named, h position f]

theorem Fails.named_single (e : Expectation) {entry : Expectation} (h : r.Fails text [entry]) :
    (named e r).Fails text [entry] := by
  intro position f
  rw [run_named, h position f]
  obtain beyond | within := Nat.lt_or_ge position f.position
  · simp only [addAll_of_gt beyond, record_of_lt _ e beyond, ite_self]
  -- The rule has added a single entry, which stands for the name as well.
  · simp only [countAt_addAll f within, List.length_singleton, if_true]

theorem Fails.named (e : Expectation) (h : r.Fails text entries) (many : entries.length ≠ 1) :
    (named e r).Fails text [e] := by
  intro position f
  rw [run_named, h position f]
  obtain beyond | within := Nat.lt_or_ge position f.position
  · simp only [addAll_of_gt beyond, record_of_lt _ e beyond, ite_self]
  · have more : f.countAt position + entries.length ≠ f.countAt position + 1 := by omega
    simp only [countAt_addAll f within, more, if_false, record_addAll]

theorem Takes.present {r : Rule Unit} (h : r.Takes text () rest []) :
    (present r).Takes text true rest [] := by
  have found : (r >>= fun _ => yield true).Takes text true rest [] := h.bind_pure fun _ => true
  exact found.orElse

theorem Fails.present {r : Rule Unit} (h : r.Fails rest entries) :
    (present r).Takes [] false rest entries := by
  have missing : (r >>= fun _ => yield true).Fails ([] ++ rest) entries := h.bind
  have found := missing.orElse_takes (takes_pure false rest)
  rwa [List.append_nil] at found

theorem takes_word (letters rest : List Char) : (word letters).Takes letters () rest [] := by
  intro position f
  simp [word, Cursor.advance]

theorem fails_word {letters : List Char} (h : ¬ letters <+: text) :
    (word letters).Fails text [] := by
  intro position f
  simp [word, h]

theorem fails_letter {c : Char} (h : text.head? ≠ some c) : (word [c]).Fails text [] := by
  refine fails_word ?_
  rintro ⟨rest, rfl⟩
  simp at h

theorem fails_atEnd (h : text ≠ []) : atEnd.Fails text [] := by
  intro position f
  simp [atEnd, h]

variable {belongs : Char → Bool}

theorem takes_span (inside : ∀ c ∈ text, belongs c = true)
    (ends : ∀ c ∈ rest.head?, belongs c = false) : (span belongs).Takes text text rest [] := by
  intro position f
  have restTaken : rest.takeWhile belongs = [] := by
    cases rest with
    | nil => rfl
    | cons c rest => simp [ends c rfl]
  have restDropped : rest.dropWhile belongs = rest := by
    cases rest with
    | nil => rfl
    | cons c rest => simp [ends c rfl]
  simp only [span, List.takeWhile_append_of_pos inside, List.dropWhile_append_of_pos inside,
    restTaken, restDropped, List.append_nil, addAll_nil]

theorem takes_nonemptySpan (nonempty : text ≠ []) (inside : ∀ c ∈ text, belongs c = true)
    (ends : ∀ c ∈ rest.head?, belongs c = false) :
    (nonemptySpan belongs).Takes text text rest [] := by
  have isFull : text.isEmpty = false := by simpa using nonempty
  have spanned : (span belongs).Takes text text ([] ++ rest) [] := takes_span inside ends
  have checked : (if text.isEmpty then fail else yield text).Takes [] text rest [] := by
    rw [isFull]
    exact takes_pure text rest
  have both : (nonemptySpan belongs).Takes (text ++ []) text rest [] := spanned.bind checked
  rwa [List.append_nil] at both

theorem fails_nonemptySpan (ends : ∀ c ∈ text.head?, belongs c = false) :
    (nonemptySpan belongs).Fails text [] := by
  have nothing : (span belongs).Takes [] [] text [] := takes_span (by simp) ends
  exact nothing.bind_silent (fails_fail text)

theorem fails_firstOf_map {ι : Type} {rule : ι → Rule α} {found : ι → List Expectation}
    {items : List ι} (each : ∀ item ∈ items, (rule item).Fails text (found item)) :
    (firstOf (items.map rule)).Fails text (items.flatMap found) := by
  induction items with
  | nil => exact fails_fail text
  | cons item items ih =>
    exact (each item (by simp)).orElse (ih fun later member => each later (by simp [member]))

theorem takes_firstOf_map {ι : Type} {rule : ι → Rule α} {items : List ι} {item : ι}
    (member : item ∈ items) (takes : (rule item).Takes text value rest [])
    (others : ∀ other : ι, other ≠ item →
      ∃ entries : List Expectation, (rule other).Fails (text ++ rest) entries) :
    ∃ entries : List Expectation, (firstOf (items.map rule)).Takes text value rest entries := by
  induction items with
  | nil => simp at member
  | cons head tail ih =>
    by_cases same : head = item
    · subst same
      exact ⟨[], takes.orElse⟩
    · have later : item ∈ tail := by simpa [Ne.symm same] using member
      obtain ⟨refused, fails⟩ := others head same
      obtain ⟨entries, found⟩ := ih later
      exact ⟨refused ++ entries, fails.orElse_takes found⟩

theorem takes_or_fails_words {ι : Type} (letters : ι → List Char) (items : List ι)
    (text : List Char) :
    (∃ item ∈ items, ∃ rest : List Char, text = letters item ++ rest ∧
      (firstOf (items.map fun item => do word (letters item); pure item)).Takes
        (letters item) item rest []) ∨
    (firstOf (items.map fun item => do word (letters item); pure item)).Fails text [] := by
  induction items with
  | nil => exact .inr (fails_fail text)
  | cons item items ih =>
    by_cases opens : letters item <+: text
    · obtain ⟨rest, rfl⟩ := opens
      have one := (takes_word (letters item) rest).bind_pure fun _ => item
      exact .inl ⟨item, by simp, rest, rfl, one.orElse⟩
    · have head : (word (letters item) >>= fun _ => pure item : Rule ι).Fails text [] :=
        (fails_word opens).bind
      obtain ⟨later, member, rest, rfl, taken⟩ | refused := ih
      · exact .inl ⟨later, by simp [member], rest, rfl, head.orElse_takes taken⟩
      · exact .inr (head.orElse refused)

end Tokens

section Matches

variable {pre mid post : Mark} {r s : Rule α} {next : α → Rule β} {text rest : List Char}
  {value : α}

theorem Leaves.strengthen {pre' : Mark} (h : r.Leaves pre text value rest post)
    (weaker : ∀ (position : Nat) (f : Frontier), pre' position f → pre position f) :
    r.Leaves pre' text value rest post := by
  intro position f start
  exact h position f (weaker position f start)

theorem Leaves.weaken {post' : Mark} (h : r.Leaves pre text value rest post)
    (weaker : ∀ (position : Nat) (f : Frontier), post position f → post' position f) :
    r.Leaves pre text value rest post' := by
  intro position f start
  obtain ⟨f', run, holds⟩ := h position f start
  exact ⟨f', run, weaker _ f' holds⟩

theorem Takes.leaves {entries : List Expectation} (h : r.Takes text value rest entries) :
    r.Leaves AtMost text value rest AtMost := by
  intro position f start
  refine ⟨f.addAll position entries, h position f, ?_⟩
  exact Nat.le_trans (position_addAll_le start entries) (Nat.le_add_right _ _)

theorem Takes.leaves_before {entries : List Expectation} (h : r.Takes text value rest entries)
    (nonempty : text ≠ []) : r.Leaves AtMost text value rest Before := by
  intro position f start
  refine ⟨f.addAll position entries, h position f, ?_⟩
  have place := position_addAll_le start entries
  have length := List.length_pos_iff.mpr nonempty
  simp only [Before]
  omega

theorem Leaves.bind {first second : List Char} {result : β}
    (left : r.Leaves pre first value (second ++ rest) mid)
    (right : (next value).Leaves mid second result rest post) :
    (r >>= next).Leaves pre (first ++ second) result rest post := by
  intro position f start
  obtain ⟨f', leftRun, middle⟩ := left position f start
  obtain ⟨f'', rightRun, last⟩ := right (position + first.length) f' middle
  refine ⟨f'', ?_, by simpa [Nat.add_assoc] using last⟩
  rw [run_bind, List.append_assoc, leftRun, List.length_append, ← Nat.add_assoc]
  exact rightRun

theorem Leaves.bind_pure (g : α → β) (h : r.Leaves pre text value rest post) :
    (r >>= fun found => pure (g found)).Leaves pre text (g value) rest post := by
  intro position f start
  obtain ⟨f', run, last⟩ := h position f start
  exact ⟨f', by simp only [run_bind, run, run_pure], last⟩

theorem Leaves.orElse (h : r.Leaves pre text value rest post) :
    (r.orElse s).Leaves pre text value rest post := by
  intro position f start
  obtain ⟨f', run, last⟩ := h position f start
  exact ⟨f', by rw [run_orElse, run], last⟩

theorem Fails.orElse_leaves {entries : List Expectation} (left : r.Fails (text ++ rest) entries)
    (right : s.Leaves AtMost text value rest post) :
    (r.orElse s).Leaves AtMost text value rest post := by
  intro position f start
  obtain ⟨f', run, last⟩ := right position _ (position_addAll_le start entries)
  refine ⟨f', ?_, last⟩
  rw [run_orElse, left position f]
  exact run

theorem Leaves.named (e : Expectation) (h : r.Leaves pre text value rest post) :
    (named e r).Leaves pre text value rest post := by
  intro position f start
  obtain ⟨f', run, last⟩ := h position f start
  exact ⟨f', by rw [run_named, run], last⟩

end Matches

section Breaks

variable {pre mid : Mark} {heads : List Char} {r s : Rule α} {next : α → Rule β}
  {read rest : List Char} {value : α} {entries : List Expectation}

theorem Breaks.strengthen {pre' : Mark} (h : r.Breaks pre heads read entries rest)
    (weaker : ∀ (position : Nat) (f : Frontier), pre' position f → pre position f) :
    r.Breaks pre' heads read entries rest := by
  intro position f start
  exact h position f (weaker position f start)

theorem Broken.mono {heads' : List Char} {frontier : Frontier} {outcome : Outcome α}
    (h : Broken heads frontier outcome) (more : heads ⊆ heads') :
    Broken heads' frontier outcome := by
  cases outcome with
  | failed f => exact h
  | matched value c f =>
    obtain ⟨same, place, head, member, stands⟩ := h
    exact ⟨same, place, head, more member, stands⟩
  | tooDeep => exact h

theorem Breaks.mono {heads' : List Char} (h : r.Breaks pre heads read entries rest)
    (more : heads ⊆ heads') : r.Breaks pre heads' read entries rest :=
  fun position f start => (h position f start).mono more

theorem Fails.breaks (h : r.Fails rest entries) (nonempty : entries ≠ []) :
    r.Breaks Before heads [] entries rest := by
  intro position f start
  rw [List.nil_append, h position f, addAll_of_lt start nonempty]
  rfl

theorem Leaves.bind_breaks {first : List Char} (left : r.Leaves pre first value (read ++ rest) mid)
    (right : (next value).Breaks mid heads read entries rest) :
    (r >>= next).Breaks pre heads (first ++ read) entries rest := by
  intro position f start
  obtain ⟨f', leftRun, middle⟩ := left position f start
  rw [run_bind, List.append_assoc, leftRun, List.length_append, ← Nat.add_assoc]
  exact right _ f' middle

theorem Leaves.bind_fails (left : r.Leaves pre read value rest (Exactly entries))
    {entries' : List Expectation} (right : (next value).Fails rest entries') :
    (r >>= next).Breaks pre [] read (entries ++ entries') rest := by
  intro position f start
  obtain ⟨f', leftRun, rfl⟩ := left position f start
  rw [run_bind, leftRun]
  change Broken [] _ ((next value).run _ _)
  rw [right, addAll_self]
  rfl

theorem Breaks.run_cases (h : r.Breaks pre heads read entries rest) {position : Nat} {f : Frontier}
    (start : pre position f) :
    r.run ⟨position, read ++ rest⟩ f = .failed ⟨position + read.length, entries⟩ ∨
      ∃ (found : α) (place : Nat) (head : Char) (after : List Char), head ∈ heads ∧
        place < position + read.length ∧ r.run ⟨position, read ++ rest⟩ f =
          .matched found ⟨place, head :: after⟩ ⟨position + read.length, entries⟩ := by
  have broken := h position f start
  cases run : r.run ⟨position, read ++ rest⟩ f with
  | failed f' =>
    rw [run] at broken
    exact .inl (congrArg Outcome.failed broken)
  | matched found c f' =>
    rw [run] at broken
    obtain ⟨rfl, within, head, member, stands⟩ := broken
    obtain ⟨place, text⟩ := c
    obtain ⟨after, rfl⟩ := List.head?_eq_some_iff.mp stands
    exact .inr ⟨found, place, head, after, member, within, rfl⟩
  | tooDeep => simp [run, Broken] at broken

theorem Breaks.bind_fails (left : r.Breaks pre heads read entries rest)
    (refused : ∀ (value : α) (head : Char) (after : List Char), head ∈ heads →
      ∃ entries' : List Expectation, (next value).Fails (head :: after) entries') :
    (r >>= next).Breaks pre [] read entries rest := by
  intro position f start
  rw [run_bind]
  obtain failed | ⟨found, place, head, after, member, within, matched⟩ := left.run_cases start
  · rw [failed]
    rfl
  · obtain ⟨entries', fails⟩ := refused found head after member
    rw [matched]
    change Broken [] _ ((next found).run _ _)
    rw [fails, addAll_of_gt within]
    rfl

theorem Breaks.bind_idle (left : r.Breaks pre heads read entries rest)
    (idle : ∀ (value : α) (head : Char) (after : List Char) (position : Nat) (f : Frontier),
      head ∈ heads → position < f.position → ∃ result : β,
        (next value).run ⟨position, head :: after⟩ f =
          .matched result ⟨position, head :: after⟩ f) :
    (r >>= next).Breaks pre heads read entries rest := by
  intro position f start
  rw [run_bind]
  obtain failed | ⟨found, place, head, after, member, within, matched⟩ := left.run_cases start
  · rw [failed]
    rfl
  · obtain ⟨result, stays⟩ := idle found head after place ⟨_, entries⟩ member within
    rw [matched]
    change Broken heads _ ((next found).run _ _)
    rw [stays]
    exact ⟨rfl, within, head, member, rfl⟩

theorem Fails.orElse_breaks {entries' : List Expectation} (left : r.Fails (read ++ rest) entries')
    (right : s.Breaks AtMost heads read entries rest) :
    (r.orElse s).Breaks AtMost heads read entries rest := by
  intro position f start
  rw [run_orElse, left position f]
  exact right position _ (position_addAll_le start entries')

theorem Breaks.run_eq (h : r.Breaks pre [] read entries rest) {position : Nat} {f : Frontier}
    (start : pre position f) :
    r.run ⟨position, read ++ rest⟩ f = .failed ⟨position + read.length, entries⟩ := by
  obtain failed | ⟨found, place, head, after, member, -⟩ := h.run_cases start
  · exact failed
  · simp at member

theorem Breaks.orElse_fails {entries' : List Expectation} (left : r.Breaks pre [] read entries rest)
    (nonempty : read ≠ []) (right : s.Fails (read ++ rest) entries') :
    (r.orElse s).Breaks pre [] read entries rest := by
  intro position f start
  have length := List.length_pos_iff.mpr nonempty
  rw [run_orElse, left.run_eq start]
  change Broken [] _ (s.run _ _)
  rw [right, addAll_of_gt (by simp only []; omega)]
  rfl

theorem Breaks.orElse_takes {less after : List Char} {head : Char} {entries' : List Expectation}
    (left : r.Breaks pre [] read entries rest) (member : head ∈ heads)
    (split : read ++ rest = less ++ head :: after) (shorter : less.length < read.length)
    (right : s.Takes less value (head :: after) entries') :
    (r.orElse s).Breaks pre heads read entries rest := by
  intro position f start
  rw [run_orElse, left.run_eq start]
  change Broken heads _ (s.run ⟨position, read ++ rest⟩ _)
  rw [split, right, addAll_of_gt (by simp only []; omega)]
  exact ⟨rfl, by simp only []; omega, head, member, rfl⟩

theorem Breaks.named (e : Expectation) (h : r.Breaks pre heads read entries rest)
    (nonempty : read ≠ []) : (named e r).Breaks pre heads read entries rest := by
  intro position f start
  have length := List.length_pos_iff.mpr nonempty
  have beyond : position < position + read.length := by omega
  rw [run_named]
  obtain failed | ⟨found, place, head, after, member, within, matched⟩ := h.run_cases start
  · have stays := record_of_lt (f := ⟨position + read.length, entries⟩) (f.countAt position) e
      beyond
    simp only [failed, stays, ite_self]
    rfl
  · rw [matched]
    exact ⟨rfl, within, head, member, rfl⟩

end Breaks

section Repetitions

variable {pre mid post : Mark} {heads : List Char} {r : Rule α} {fuel : Nat}
  {text first read rest : List Char} {value : α} {values : List α} {entries : List Expectation}

def Outcome.prepend (found : List α) : Outcome (List α) → Outcome (List α)
  | .matched values c f => .matched (found ++ values) c f
  | .failed f => .failed f
  | .tooDeep => .tooDeep

theorem Broken.prepend (found : List α) {frontier : Frontier} {outcome : Outcome (List α)}
    (h : Broken heads frontier outcome) :
    Broken heads frontier (Outcome.prepend found outcome) := by
  cases outcome with
  | failed f => exact h
  | matched values c f => exact h
  | tooDeep => exact h

theorem collect_eq (r : Rule α) (fuel : Nat) (found : List α) (c : Cursor) (f : Frontier) :
    r.collect fuel found c f = Outcome.prepend found.reverse ((repeated fuel r).run c f) := by
  change _ = Outcome.prepend found.reverse (r.collect fuel [] c f)
  induction fuel generalizing found c f with
  | zero => simp [collect, Outcome.prepend]
  | succ fuel ih =>
    simp only [collect]
    cases r.run c f with
    | matched value c' f' =>
      simp only [ih (value :: found), ih [value]]
      cases r.collect fuel [] c' f' <;> simp [Outcome.prepend]
    | failed f' => simp [Outcome.prepend]
    | tooDeep => rfl

theorem run_repeated_succ (r : Rule α) (fuel : Nat) (c : Cursor) (f : Frontier) :
    (repeated (fuel + 1) r).run c f =
      match r.run c f with
      | .matched value c' f' => Outcome.prepend [value] ((repeated fuel r).run c' f')
      | .failed f' => .matched [] c f'
      | .tooDeep => .tooDeep := by
  change r.collect (fuel + 1) [] c f = _
  rw [collect]
  cases r.run c f with
  | matched value c' f' => exact collect_eq r fuel [value] c' f'
  | failed f' => rfl
  | tooDeep => rfl

theorem leaves_repeated_nil (h : r.Fails rest entries) (nonempty : entries ≠ []) :
    (repeated (fuel + 1) r).Leaves Before [] [] rest (Exactly entries) := by
  intro position f start
  refine ⟨⟨position, entries⟩, ?_, rfl⟩
  rw [run_repeated_succ, List.nil_append, h position f, addAll_of_lt start nonempty]
  rfl

theorem leaves_repeated_cons (one : r.Leaves pre first value (text ++ rest) mid)
    (others : (repeated fuel r).Leaves mid text values rest post) :
    (repeated (fuel + 1) r).Leaves pre (first ++ text) (value :: values) rest post := by
  intro position f start
  obtain ⟨f', oneRun, middle⟩ := one position f start
  obtain ⟨f'', othersRun, last⟩ := others (position + first.length) f' middle
  refine ⟨f'', ?_, by simpa [Nat.add_assoc] using last⟩
  rw [run_repeated_succ, List.append_assoc, oneRun, List.length_append, ← Nat.add_assoc]
  simp only [othersRun, Outcome.prepend, List.singleton_append]

theorem repeated_idle (h : r.Fails rest entries) (fuel : Nat) {position : Nat} {f : Frontier}
    (beyond : position < f.position) :
    (repeated fuel r).run ⟨position, rest⟩ f = .matched [] ⟨position, rest⟩ f := by
  cases fuel with
  | zero => rfl
  | succ fuel => rw [run_repeated_succ, h position f, addAll_of_gt beyond]

theorem breaks_repeated_cons (one : r.Leaves pre first value (read ++ rest) mid)
    (others : (repeated fuel r).Breaks mid heads read entries rest) :
    (repeated (fuel + 1) r).Breaks pre heads (first ++ read) entries rest := by
  intro position f start
  obtain ⟨f', oneRun, middle⟩ := one position f start
  rw [run_repeated_succ, List.append_assoc, oneRun, List.length_append, ← Nat.add_assoc]
  exact (others _ f' middle).prepend [value]

-- A match that fails later than at its first character is given back, and the repetition ends in
-- front of that character.
theorem breaks_repeated {heads' : List Char} {head : Char}
    (one : r.Breaks pre heads (head :: read) entries rest) (member : head ∈ heads')
    (more : heads ⊆ heads') (refused : ∀ (stop : Char) (after : List Char), stop ∈ heads →
      ∃ entries' : List Expectation, r.Fails (stop :: after) entries') :
    (repeated (fuel + 1) r).Breaks pre heads' (head :: read) entries rest := by
  intro position f start
  rw [run_repeated_succ]
  obtain failed | ⟨found, place, stop, after, stops, within, matched⟩ := one.run_cases start
  · rw [failed]
    exact ⟨rfl, by simp only [List.length_cons]; omega, head, member, rfl⟩
  · obtain ⟨entries', fails⟩ := refused stop after stops
    have idle := repeated_idle (f := ⟨_, entries⟩) fails fuel within
    simp only [matched, idle]
    exact ⟨rfl, within, stop, more stops, rfl⟩

end Repetitions

end Rule

end FormulaNumerics.Syntax
