import FormulaNumerics.Proofs.Meaning.Grouping
import FormulaNumerics.Proofs.Meaning.Literals

set_option autoImplicit false

namespace FormulaNumerics

theorem ok_of_bind {ε α β : Type} {outcome : Except ε α} {next : α → Except ε β} {result : β}
    (ended : outcome >>= next = .ok result) :
    ∃ value : α, outcome = .ok value ∧ next value = .ok result := by
  cases outcome with
  | error fault => cases ended
  | ok value => exact ⟨value, rfl, ended⟩

theorem Term.evaluate_extend (slots : List Float) (t : Term) (op : Operator) (operand : Term) :
    (t.extend [(op, operand)]).evaluate slots = (do
      let left ← t.evaluate slots
      let right ← operand.evaluate slots
      op.apply left right) := by
  have last (value : Float) : evaluateTail slots value [(op, operand)] = (do
      let right ← operand.evaluate slots
      op.apply value right) := by
    simp only [evaluateTail]
    cases operand.evaluate slots with
    | error fault => rfl
    | ok right =>
      change (op.apply value right).bind (fun next => .ok next) = op.apply value right
      cases op.apply value right <;> rfl
  have opened := evaluate_opened slots op.level t
  simp only [extend, Term.evaluate]
  rw [opened]
  cases (t.opened op.level).1.evaluate slots with
  | error fault => rfl
  | ok value =>
    change evaluateTail slots value ((t.opened op.level).2 ++ [(op, operand)]) =
      (evaluateTail slots value (t.opened op.level).2).bind fun left =>
        operand.evaluate slots >>= fun right => op.apply left right
    rw [evaluateTail_append]
    exact congrArg _ (funext last)

namespace Syntax.Derivation

def value (v : Valuation) : {l : Layer} → Derivation l → Except (Fault Float) Float
  | _, single operand => operand.value v
  | _, more run op _ operand => do
    let left ← run.value v
    let right ← operand.value v
    op.apply left right
  | _, plain primary => primary.value v
  | _, negated primary => do
    let x ← primary.value v
    return -x
  | _, number literal wf =>
    return (Decimal.read? literal.text).get (Option.isSome_of_eq_some wf.read?_text)
  | _, name letters _ =>
    match v.get? (String.ofList letters) with
    | some x => return x
    | none => throw (.undefinedName (String.ofList letters))
  | _, group inner => inner.value v
  | _, call function argument => do
    let x ← argument.value v
    function.apply x
  | _, log base value => do
    let b ← base.value v
    let x ← value.value v
    logarithm b x

-- Only the slots of names that occur matter, so a part is evaluated on the slots of the whole.
theorem evaluate_tree (v : Valuation) (names : List String) (slots : List Float) {l : Layer}
    (d : Derivation l) (supplied : ∀ name ∈ d.names, ∃ x : Float,
      v.get? name = some x ∧ slots[names.idxOf name]? = some x) :
    (d.tree names).evaluate slots = d.value v := by
  induction d with
  | single operand ih => exact ih supplied
  | more run op atLevel operand runValue operandValue =>
    rw [tree, Term.evaluate_extend, value,
      runValue fun name member => supplied name (List.mem_append_left _ member),
      operandValue fun name member => supplied name (List.mem_append_right _ member)]
  | plain primary ih => exact ih supplied
  | negated primary ih => rw [tree, Term.evaluate, value, ih supplied]
  | number literal wf => simp [tree, Term.evaluate, value, wf.read?_text]
  | name letters wf =>
    obtain ⟨x, defined, slot⟩ := supplied (String.ofList letters) (by simp [Derivation.names])
    simp only [tree, Term.evaluate, value, defined, slot]
  | group inner ih => exact ih supplied
  | call function argument ih => rw [tree, Term.evaluate, value, ih supplied]
  | log base value baseValue valueValue =>
    rw [tree, Term.evaluate, Derivation.value,
      baseValue fun name member => supplied name (List.mem_append_left _ member),
      valueValue fun name member => supplied name (List.mem_append_right _ member)]

end Syntax.Derivation

namespace Formula

open Syntax

theorem find?_eraseDups (undefined : String → Bool) (names : List String) :
    names.eraseDups.find? undefined = names.find? undefined := by
  induction length : names.length using Nat.strong_induction_on generalizing names with
  | _ count ih =>
    cases names with
    | nil => rfl
    | cons name rest =>
      rw [List.eraseDups_cons]
      cases missing : undefined name with
      | true => simp [missing]
      | false =>
        have shorter : (rest.filter (fun other => !other == name)).length < count := by
          have bound := List.length_filter_le (fun other => !other == name) rest
          simp only [List.length_cons] at length
          omega
        rw [List.find?_cons_of_neg (by simp [missing]), ih _ shorter _ rfl, List.find?_filter,
          List.find?_cons_of_neg (by simp [missing])]
        congr 1
        funext other
        by_cases same : other = name
        · simp [same, missing]
        · simp [same]

theorem resolve_of_undefined {α : Type} {answer : String → Option α} {names : List String}
    {name : String} (first : names.find? (fun name => (answer name).isNone) = some name) :
    resolve answer names = .error (.undefinedName name) := by
  induction names with
  | nil => simp at first
  | cons head rest ih =>
    unfold resolve
    cases known : answer head with
    | none =>
      rw [List.find?_cons_of_pos (by simp [known]), Option.some.injEq] at first
      rw [first]
    | some value =>
      rw [List.find?_cons_of_neg (by simp [known])] at first
      simp only [ih first]
      rfl

theorem resolve_of_defined {α : Type} {answer : String → Option α} {names : List String}
    (defined : ∀ name ∈ names, (answer name).isSome = true) :
    ∃ found : List α, resolve answer names = .ok found := by
  induction names with
  | nil => exact ⟨[], rfl⟩
  | cons head rest ih =>
    obtain ⟨found, resolved⟩ := ih fun name member => defined name (by simp [member])
    obtain ⟨value, known⟩ := Option.isSome_iff_exists.mp (defined head (by simp))
    exact ⟨value :: found, by simp [resolve, known, resolved, Except.map]⟩

theorem exists_resolve_of_find? {α : Type} {answer : String → Option α} {names : List String}
    (none : names.find? (fun name => (answer name).isNone) = none) :
    ∃ found : List α, resolve answer names = .ok found := by
  refine resolve_of_defined ?_
  simpa [Option.isSome_iff_ne_none] using none

theorem exists_resolve_iff {α : Type} (answer : String → Option α) (names : List String) :
    (∃ found : List α, resolve answer names = .ok found) ↔
      ∀ name ∈ names, (answer name).isSome = true := by
  constructor
  · rintro ⟨found, resolved⟩ name member
    have answered : answer name ∈ found.map some := by
      rw [← (resolve_eq_ok_iff answer names found).mp resolved]
      exact List.mem_map_of_mem member
    obtain ⟨value, -, known⟩ := List.mem_map.mp answered
    rw [← known]
    rfl
  · exact resolve_of_defined

theorem exists_name_of_resolve {α : Type} {answer : String → Option α} {names : List String}
    {found : List α} (resolved : resolve answer names = .ok found) {value : α}
    (member : value ∈ found) : ∃ name ∈ names, answer name = some value := by
  have answered : some value ∈ names.map answer := by
    rw [(resolve_eq_ok_iff answer names found).mp resolved]
    exact List.mem_map_of_mem member
  exact List.mem_map.mp answered

theorem slot_of_resolve {α : Type} {answer : String → Option α} {names : List String}
    {found : List α} (resolved : resolve answer names = .ok found) {name : String}
    (member : name ∈ names) : found[names.idxOf name]? = answer name := by
  have pointwise := (resolve_eq_ok_iff answer names found).mp resolved
  have inside := List.idxOf_lt_length_of_mem member
  have entry := congrArg (fun entries => entries[names.idxOf name]?) pointwise
  simp only [List.getElem?_map, List.getElem?_eq_getElem inside, Option.map_some,
    List.getElem_idxOf inside] at entry
  cases slot : found[names.idxOf name]? with
  | none => simp [slot] at entry
  | some value => simpa [slot] using entry.symm

theorem evaluate_ofPhrase (d : Derivation (.run .sum)) (v : Valuation) :
    (ofPhrase d.phrase).evaluate v =
      match d.names.find? (fun name => (v.get? name).isNone) with
      | some name => .error (.undefinedName name)
      | none => d.value v := by
  have names : d.phrase.names.find? (fun name => (v.get? name).isNone) =
      d.names.find? (fun name => (v.get? name).isNone) := by
    rw [Phrase.names, find?_eraseDups, Derivation.occurrences_phrase]
  rw [← names]
  unfold evaluate ofPhrase
  cases first : d.phrase.names.find? (fun name => (v.get? name).isNone) with
  | some name => simp only [resolve_of_undefined first]; rfl
  | none =>
    have defined : ∀ name ∈ d.phrase.names, (v.get? name).isSome = true := by
      simpa [Option.isSome_iff_ne_none] using first
    obtain ⟨slots, resolved⟩ := resolve_of_defined defined
    simp only [resolved]
    change (d.phrase.tree d.phrase.names).evaluate slots = d.value v
    rw [Derivation.tree_phrase]
    refine d.evaluate_tree v _ slots ?_
    intro name member
    have listed : name ∈ d.phrase.names := by
      rwa [Phrase.mem_names, Derivation.occurrences_phrase]
    obtain ⟨x, known⟩ := Option.isSome_iff_exists.mp (defined name listed)
    exact ⟨x, known, (slot_of_resolve resolved listed).trans known⟩

theorem parse_eq_ofPhrase {s : String} {f : Formula} (accepted : parse s = .ok f)
    (d : Derivation (.run .sum)) (derives : d.text = Text.strip s.toList) :
    f = ofPhrase d.phrase := by
  obtain ⟨p, rfl, shallow, wf, spelled⟩ := (parse_eq_ok_iff s f).mp accepted
  have reads := (parseStripped_eq_ok_iff (Text.strip s.toList) p).mpr ⟨shallow, wf, spelled⟩
  have readsToo := (parseStripped_eq_ok_iff (Text.strip s.toList) d.phrase).mpr
    ⟨shallow, d.wellFormed_phrase, d.text_phrase.trans derives⟩
  rw [Except.ok.inj (reads.symm.trans readsToo)]

theorem exists_derivation {s : String} {f : Formula} (accepted : parse s = .ok f) :
    ∃ d : Derivation (.run .sum), d.text = Text.strip s.toList ∧ f = ofPhrase d.phrase := by
  obtain ⟨p, rfl, -, wf, spelled⟩ := (parse_eq_ok_iff s f).mp accepted
  obtain ⟨d, rfl⟩ := Derivation.exists_of_phrase p wf
  exact ⟨d, d.text_phrase.symm.trans spelled, rfl⟩

theorem evaluate_of_parse {s : String} {f : Formula} (accepted : parse s = .ok f)
    (v : Valuation) : FormulaNumerics.evaluate s v = f.evaluate v := by
  rw [FormulaNumerics.evaluate, accepted]
  rfl

theorem evaluate_eq_value {s : String} {f : Formula} (accepted : parse s = .ok f) :
    (∃ d : Derivation (.run .sum), d.text = Text.strip s.toList) ∧
    ∀ d : Derivation (.run .sum), d.text = Text.strip s.toList →
      ∀ v : Valuation, (∀ name ∈ f.names, (v.get? name).isSome = true) →
        f.evaluate v = d.value v := by
  obtain ⟨d, derives, -⟩ := exists_derivation accepted
  refine ⟨⟨d, derives⟩, ?_⟩
  intro d derives v defined
  obtain rfl := parse_eq_ofPhrase accepted d derives
  have none : d.names.find? (fun name => (v.get? name).isNone) = none := by
    rw [List.find?_eq_none]
    intro name member
    have listed : name ∈ d.phrase.names := by
      rwa [Phrase.mem_names, Derivation.occurrences_phrase]
    simpa [Option.isSome_iff_ne_none] using defined name listed
  rw [evaluate_ofPhrase, none]

theorem evaluate_differences_of_product :
    ∃ f : Formula, parse "a - b * -c - a" = .ok f ∧
      f.evaluate (.ofList [("a", 7), ("b", 2), ("c", 3)]) = .ok (7 - 2 * -3 - 7) := by
  let a : Derivation .primary := .name ['a'] (isName_of_all (by decide) (by decide))
  let b : Derivation .primary := .name ['b'] (isName_of_all (by decide) (by decide))
  let c : Derivation .primary := .name ['c'] (isName_of_all (by decide) (by decide))
  let product : Derivation (.run .product) :=
    .more (.single (.single (.plain b))) .multiply rfl (.single (.negated c))
  let operand : Derivation (.run .product) := .single (.single (.plain a))
  let difference : Derivation (.run .sum) :=
    .more (.more (.single operand) .subtract rfl product) .subtract rfl operand
  obtain ⟨f, accepted, names⟩ :
      ∃ f : Formula, parse "a - b * -c - a" = .ok f ∧ f.names = ["a", "b", "c"] :=
    ⟨_, rfl, rfl⟩
  refine ⟨f, accepted, (evaluate_eq_value accepted).2 difference rfl _ ?_⟩
  rw [names]
  decide

end Formula

end FormulaNumerics
