import FormulaNumerics.Proofs.Syntax.Places

set_option autoImplicit false

namespace FormulaNumerics.Syntax

theorem peak_of_closed {rest : List Char} (closed : '(' ∉ rest) (depth : Nat) :
    peak depth rest = depth := by
  induction rest generalizing depth with
  | nil => rfl
  | cons c rest ih =>
    obtain ⟨notOpen, later⟩ : '(' ≠ c ∧ '(' ∉ rest := by simpa using closed
    have within : depthAfter depth c ≤ depth := by
      by_cases isClose : c = ')'
      · subst isClose
        exact Nat.sub_le depth 1
      · exact Nat.le_of_eq (depthAfter_of_ne depth (Ne.symm notOpen) isClose)
    rw [peak, ih later]
    omega

theorem peak_append_closed {rest : List Char} (closed : '(' ∉ rest) (depth : Nat)
    (text : List Char) : peak depth (text ++ rest) = peak depth text := by
  induction text generalizing depth with
  | nil => exact peak_of_closed closed depth
  | cons c text ih => rw [List.cons_append, peak, peak, ih]

theorem peak_le_append (depth : Nat) (left right : List Char) :
    peak depth left ≤ peak depth (left ++ right) := by
  induction left generalizing depth with
  | nil => exact le_peak depth right
  | cons c left ih =>
    have later := ih (depthAfter depth c)
    simp only [List.cons_append, peak]
    omega

section Points

-- An operand that is looked for is not looked for behind another one.
theorem Snag.point_cases {n : Nonterminal} {before point : List Char} {next : Option Char}
    {entries : List Expectation} (snag : Snag n before point next entries) :
    point = [] ∨ (point = ['.'] ∧ entries ≠ operatorEntries) := by
  induction snag with
  | nothing => exact .inl rfl
  | lonePoint => exact .inr ⟨rfl, by decide⟩
  | unclosed => exact .inl rfl
  | unsigned noSign snag ih => exact ih.imp_right fun found => ⟨found.1, by simp [operatorEntries]⟩
  | empty snag ih => exact ih.imp_right fun found => ⟨found.1, by decide⟩
  | inside opens snag ih => exact ih
  | signed snag ih => exact ih
  | plain begun snag ih => exact ih
  | first begun snag ih => exact ih
  | later wf op snag ih => exact ih

theorem Place.last_of_not_ended {place : Place} {text : List Char}
    (unfinished : place.after text ≠ .ended) :
    ∀ c ∈ text.getLast?, c.isDigit = false ∧ c ≠ '.' := by
  intro c last
  obtain ⟨before, rfl⟩ := List.getLast?_eq_some_iff.mp last
  constructor
  · by_contra digit
    exact unfinished (place.after_concat before (.inl (by simpa using digit)))
  · rintro rfl
    exact unfinished (place.after_concat before (by simp))

theorem Snag.not_ended {n : Nonterminal} {before point : List Char} {next : Option Char}
    {entries : List Expectation} (snag : Snag n before point next entries)
    (unfinished : entries ≠ operatorEntries) : n.start.after before ≠ .ended := by
  intro ended
  rw [snag.entries_eq, ended] at unfinished
  exact unfinished rfl

theorem Halt.lonePoint_cases {before point : List Char} {next : Option Char}
    {entries : List Expectation} (halt : Halt before point next entries) :
    (EndsInLonePoint (before ++ point) ∧ point = ['.']) ∨
      (¬ EndsInLonePoint (before ++ point) ∧ point = []) := by
  cases halt with
  | inside snag =>
    obtain rfl | ⟨rfl, unfinished⟩ := snag.point_cases
    · refine .inr ⟨?_, rfl⟩
      rw [List.append_nil]
      by_cases complete : entries = operatorEntries
      · obtain ⟨front, operand, derives, rfl⟩ := snag.ends_in_operand complete
        exact derives.not_endsInLonePoint front
      · have last := Place.last_of_not_ended (snag.not_ended complete) '.'
        rintro ⟨front, rfl, noDigit⟩
        simp at last
    · have last := Place.last_of_not_ended (snag.not_ended unfinished)
      exact .inl ⟨⟨before, rfl, fun c member => (last c member).1⟩, rfl⟩
  | @behind p next complete more =>
    refine .inr ⟨?_, rfl⟩
    rw [List.append_nil]
    exact (derives_phrase p complete.wellFormed).not_endsInLonePoint []

end Points

section Messages

def messageBehind (begun : List Char) : String :=
  match Place.behind begun with
  | .opening => "expected expression"
  | .infixed => "expected `-`, `log(base, value)`, function name, number, or variable"
  | .signed => "expected `log(base, value)`, function name, number, or variable"
  | .ended =>
    -- The text may end unless a parenthesis is still open.
    if begun.count '(' = begun.count ')' then
      "expected end of input, `+`, `-`, `*`, `/`, or `^`"
    else "expected `+`, `-`, `*`, `/`, or `^`"

structure Told (begun : List Char) (expected : List Expectation) : Prop where
  message : (Defect.unexpected expected).message = messageBehind begun
  closed : begun.count ')' ≤ begun.count '('
  complete : Place.behind begun = .ended →
    ∃ front operand : List Char, Derives .operand operand ∧ begun = front ++ operand
  noCall : .functionCall ∉ expected
  oneMinus : ¬ (.minus ∈ expected ∧ .negation ∈ expected)
  distinct : ((Expectation.listed expected).map Expectation.text).Nodup

theorem Place.entries_distinct (place : Place) : .functionCall ∉ place.entries ∧
    ¬ (.minus ∈ place.entries ∧ .negation ∈ place.entries) ∧
    ((Expectation.listed place.entries).map Expectation.text).Nodup := by
  cases place <;> decide

theorem Snag.message_eq {before point : List Char} {next : Option Char}
    {entries : List Expectation} (snag : Snag .phrase before point next entries) :
    (Defect.unexpected entries).message = messageBehind before := by
  have looked : entries = (Place.behind before).entries := snag.entries_eq
  have isOpen := snag.count_le.2
  unfold messageBehind
  cases place : Place.behind before with
  | opening => rw [looked, place]; rfl
  | infixed => rw [looked, place]; rfl
  | signed => rw [looked, place]; rfl
  | ended =>
    rw [place] at looked
    rw [if_neg (Nat.ne_of_gt (isOpen looked)), looked]
    rfl

theorem Halt.told {before point : List Char} {next : Option Char} {entries : List Expectation}
    (halt : Halt before point next entries) : Told before entries := by
  cases halt with
  | inside snag =>
    have looked : entries = (Place.behind before).entries := snag.entries_eq
    obtain ⟨noCall, oneMinus, distinct⟩ := looked ▸ (Place.behind before).entries_distinct
    refine ⟨snag.message_eq, snag.count_le.1, ?_, noCall, oneMinus, distinct⟩
    intro ended
    rw [ended] at looked
    exact snag.ends_in_operand looked
  | @behind p next complete more =>
    have derives := derives_phrase p complete.wellFormed
    have place : Place.behind p.text = .ended := derives.after .opening
    have counts := derives.count_eq
    refine ⟨?_, Nat.le_of_eq counts.symm, fun _ => derives.ends_in_operand, by decide, by decide,
      by decide⟩
    simp only [messageBehind, place, counts, if_true]
    rfl

end Messages

end FormulaNumerics.Syntax

namespace FormulaNumerics.Formula

open Syntax

-- Some continuation of the text is accepted.
def Viable (begun : List Char) : Prop :=
  ∃ (rest : List Char) (f : Formula), parse (String.ofList (begun ++ rest)) = .ok f

structure LongestViable (begun text : List Char) : Prop where
  begins : begun <+: text
  viable : Viable begun
  longest : ∀ longer : List Char, longer <+: text → Viable longer → longer.length ≤ begun.length

theorem LongestViable.unique {left right text : List Char} (first : LongestViable left text)
    (second : LongestViable right text) : left = right := by
  have same := Nat.le_antisymm (second.longest left first.begins first.viable)
    (first.longest right second.begins second.viable)
  have within := List.prefix_of_prefix_length_le first.begins second.begins (Nat.le_of_eq same)
  exact within.eq_of_length same

theorem Viable.of_begins {begun longer : List Char} (begins : begun <+: longer)
    (viable : Viable longer) : Viable begun := by
  obtain ⟨between, rfl⟩ := begins
  obtain ⟨rest, f, accepted⟩ := viable
  exact ⟨between ++ rest, f, by rwa [← List.append_assoc]⟩

section Halts

variable {before point rest : List Char} {entries : List Expectation}

theorem viable_of_halt (halt : Halt before point rest.head? entries)
    (blankless : ∀ c ∈ before ++ point, Text.isBlank c = false)
    (shallow : peak 0 (before ++ point) ≤ maxNesting) : Viable (before ++ point) := by
  obtain ⟨closing, closes, derives⟩ := halt.completes
  have stripped : Text.strip (String.ofList (before ++ point ++ closing)).toList =
      before ++ point ++ closing := by
    rw [String.toList_ofList]
    refine Text.strip_eq_self ?_
    have blanks : closers.all (fun c => !Text.isBlank c) = true := by decide
    intro c member
    obtain old | new := List.mem_append.mp member
    · exact blankless c old
    · simpa using List.all_eq_true.mp blanks c (closes new)
  have closed : '(' ∉ closing := fun member => absurd (closes member) (by decide)
  refine ⟨closing, (accepts_iff_derives _).1.mpr ?_⟩
  rw [stripped, peak_append_closed closed]
  exact ⟨shallow, derives⟩

-- Where a text halts it halts however it goes on behind the next character.
theorem not_viable_of_halt {c : Char} (halt : Halt before point (some c) entries)
    (blankless : ∀ c' ∈ before ++ point ++ [c], Text.isBlank c' = false) :
    ¬ Viable (before ++ point ++ [c]) := by
  rintro ⟨rest, f, accepted⟩
  obtain ⟨p, -, shallow, wf, spelled⟩ := (parse_eq_ok_iff _ f).mp accepted
  have stripped : Text.strip (String.ofList (before ++ point ++ [c] ++ rest)).toList =
      before ++ point ++ c :: Text.strip rest := by
    rw [String.toList_ofList, Text.strip_append, Text.strip_eq_self blankless]
    simp
  rw [stripped] at shallow spelled
  have within : peak 0 before ≤ maxNesting := by
    rw [List.append_assoc] at shallow
    exact Nat.le_trans (peak_le_append 0 before _) shallow
  have here : Halt before point (c :: Text.strip rest).head? entries := halt
  have halts := here.recognize_eq maxNesting within
  rw [← spelled] at halts
  rw [recognize_text wf (by rwa [← Phrase.peak_text wf, spelled])] at halts
  cases halts

theorem longestViable_of_halt (halt : Halt before point rest.head? entries)
    (blankless : ∀ c ∈ before ++ point ++ rest, Text.isBlank c = false)
    (shallow : peak 0 (before ++ point ++ rest) ≤ maxNesting) :
    LongestViable (before ++ point) (before ++ point ++ rest) := by
  refine ⟨List.prefix_append _ _, ?_, ?_⟩
  · refine viable_of_halt halt (fun c member => blankless c (List.mem_append_left _ member)) ?_
    exact Nat.le_trans (peak_le_append 0 _ rest) shallow
  · intro longer begins viable
    by_contra further
    cases rest with
    | nil =>
      have within := begins.length_le
      rw [List.append_nil] at within
      exact further within
    | cons c after =>
      have one : before ++ point ++ [c] <+: before ++ point ++ c :: after := ⟨after, by simp⟩
      have begun : before ++ point ++ [c] <+: longer := by
        refine List.prefix_of_prefix_length_le one begins ?_
        rw [List.length_append, List.length_singleton]
        omega
      refine not_viable_of_halt halt ?_ (viable.of_begins begun)
      exact fun c' member => blankless c' (one.subset member)

end Halts

theorem refused_cases {s : String} {fault : Fault Float}
    (shallow : overNested? maxNesting 0 0 (Text.strip s.toList) = none)
    (refused : parse s = .error fault) :
    ∃ (before point rest : List Char) (entries : List Expectation),
      Text.strip s.toList = before ++ point ++ rest ∧ Halt before point rest.head? entries ∧
      fault = .malformed ⟨before.length + 1, .unexpected entries⟩ := by
  have within := (overNested?_eq_none_iff 0 _ (Nat.zero_le maxNesting)).mp shallow
  obtain ⟨p, wf, spelled⟩ | ⟨before, point, rest, entries, split, halt⟩ :=
    spells_or_halts (Text.strip s.toList)
  · rw [(parse_eq_ok_iff s _).mpr ⟨p, rfl, within, wf, spelled⟩] at refused
    cases refused
  · refine ⟨before, point, rest, entries, split, halt, ?_⟩
    have begins : peak 0 before ≤ maxNesting := by
      rw [split, List.append_assoc] at within
      exact Nat.le_trans (peak_le_append 0 before _) within
    rw [parse, Phrase.parse, parseStripped, shallow] at refused
    simp only [split, halt.recognize_eq maxNesting begins] at refused
    exact (Except.error.inj refused).symm

theorem column_of_refused {s : String} {fault : Fault Float}
    (shallow : overNested? maxNesting 0 0 (Text.strip s.toList) = none)
    (refused : parse s = .error fault) :
    ∃ (column : Nat) (expected : List Expectation),
      fault = .malformed ⟨column, .unexpected expected⟩ ∧
      (∃ begun : List Char, LongestViable begun (Text.strip s.toList)) ∧
      (∀ begun : List Char, LongestViable begun (Text.strip s.toList) →
        (¬ EndsInLonePoint begun → column = begun.length + 1) ∧
        (EndsInLonePoint begun → column = begun.length)) ∧
      1 ≤ column ∧ column ≤ (Text.strip s.toList).length + 1 ∧
      Viable ((Text.strip s.toList).take (column - 1)) := by
  have within := (overNested?_eq_none_iff 0 _ (Nat.zero_le maxNesting)).mp shallow
  obtain ⟨before, point, rest, entries, split, halt, told⟩ := refused_cases shallow refused
  have blankless : ∀ c ∈ before ++ point ++ rest, Text.isBlank c = false := by
    intro c member
    exact ((Text.mem_strip _ c).mp (split ▸ member)).2
  rw [split] at within ⊢
  have longest := longestViable_of_halt halt blankless within
  have reported : (before ++ point ++ rest).take (before.length + 1 - 1) = before := by
    rw [Nat.add_sub_cancel, List.append_assoc, List.take_left]
  refine ⟨before.length + 1, entries, told, ⟨_, longest⟩, ?_, by omega, ?_, ?_⟩
  · intro begun other
    obtain rfl := longest.unique other
    obtain ⟨lone, rfl⟩ | ⟨closed, rfl⟩ := halt.lonePoint_cases
    · simp [lone]
    · simpa using closed
  · simp only [List.length_append]
    omega
  · rw [reported]
    exact longest.viable.of_begins (List.prefix_append before point)

theorem column_of_sum_with_point :
    parse "1 + ." = .error (.malformed ⟨3, .unexpected (.negation :: primaryEntries)⟩) ∧
      Viable ['1', '+'] := by
  have refused : parse "1 + ." =
      .error (.malformed ⟨3, .unexpected (.negation :: primaryEntries)⟩) := rfl
  obtain ⟨column, expected, told, -, -, -, -, viable⟩ := column_of_refused (by decide) refused
  cases told
  exact ⟨refused, viable⟩

theorem told_of_refused {s : String} {fault : Fault Float}
    (shallow : overNested? maxNesting 0 0 (Text.strip s.toList) = none)
    (refused : parse s = .error fault) :
    ∃ (column : Nat) (expected : List Expectation),
      fault = .malformed ⟨column, .unexpected expected⟩ ∧
      Told ((Text.strip s.toList).take (column - 1)) expected := by
  obtain ⟨before, point, rest, entries, split, halt, told⟩ := refused_cases shallow refused
  refine ⟨before.length + 1, entries, told, ?_⟩
  rw [split, Nat.add_sub_cancel, List.append_assoc, List.take_left]
  exact halt.told

theorem told_of_open_sum :
    parse "2 * (3 + 4" = .error (.malformed ⟨7, .unexpected operatorEntries⟩) ∧
      Expectation.sentence operatorEntries = "expected `+`, `-`, `*`, `/`, or `^`" := by
  have refused : parse "2 * (3 + 4" =
      .error (.malformed ⟨7, .unexpected operatorEntries⟩) := rfl
  obtain ⟨column, expected, told, behind⟩ := told_of_refused (by decide) refused
  cases told
  exact ⟨refused, behind.message⟩

end FormulaNumerics.Formula
