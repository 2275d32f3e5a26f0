import FormulaNumerics.Proofs.Meaning.Climbing
import FormulaNumerics.Proofs.Meaning.Variables

set_option autoImplicit false

namespace FormulaNumerics

namespace Term

mutual

def slots : Term → List Nat
  | .chain head tail => head.slots ++ tailSlots tail
  | .neg operand => operand.slots
  | .call _ argument => argument.slots
  | .log base value => base.slots ++ value.slots
  | .literal _ => []
  | .slot index => [index]

def tailSlots : List (Operator × Term) → List Nat
  | [] => []
  | (_, operand) :: rest => operand.slots ++ tailSlots rest

end

theorem tailSlots_append (left right : List (Operator × Term)) :
    tailSlots (left ++ right) = tailSlots left ++ tailSlots right := by
  induction left with
  | nil => rfl
  | cons entry left ih => simp [tailSlots, ih]

theorem slots_opened (level : Level) (t : Term) :
    (t.opened level).1.slots ++ tailSlots (t.opened level).2 = t.slots := by
  obtain alone | ⟨head, tail, rfl, -, spliced⟩ := opened_cases level t
  · rw [alone]
    exact List.append_nil _
  · rw [spliced, slots]

theorem slots_extend (t : Term) (op : Operator) (operand : Term) :
    (t.extend [(op, operand)]).slots = t.slots ++ operand.slots := by
  simp only [extend, slots, tailSlots_append, tailSlots, List.append_nil]
  rw [← List.append_assoc, slots_opened]

end Term

namespace Syntax

theorem Derivation.slots_tree (names : List String) {l : Layer} (d : Derivation l) :
    (d.tree names).slots = d.names.map names.idxOf := by
  induction d with
  | single operand ih => exact ih
  | more run op atLevel operand runSlots operandSlots =>
    rw [tree, Term.slots_extend, runSlots, operandSlots, Derivation.names, List.map_append]
  | plain primary ih => exact ih
  | negated primary ih => exact ih
  | number literal wf => rfl
  | name letters wf => rfl
  | group inner ih => exact ih
  | call function argument ih => exact ih
  | log base value baseSlots valueSlots =>
    rw [tree, Term.slots, baseSlots, valueSlots, Derivation.names, List.map_append]

structure ListsOnce (names occurrences : List String) : Prop where
  nodup : names.Nodup
  mem_iff : ∀ name : String, name ∈ names ↔ name ∈ occurrences
  ordered : names.Pairwise fun earlier later =>
    occurrences.idxOf earlier < occurrences.idxOf later

namespace ListsOnce

theorem nil : ListsOnce [] [] :=
  ⟨List.nodup_nil, by simp, List.Pairwise.nil⟩

variable {names occurrences : List String}

theorem ordered_append (lists : ListsOnce names occurrences) (added : List String) :
    names.Pairwise fun earlier later =>
      (occurrences ++ added).idxOf earlier < (occurrences ++ added).idxOf later := by
  refine lists.ordered.imp_of_mem ?_
  intro earlier later earlierListed laterListed before
  rwa [List.idxOf_append_of_mem ((lists.mem_iff earlier).mp earlierListed),
    List.idxOf_append_of_mem ((lists.mem_iff later).mp laterListed)]

-- A new name has not occurred before, so all others are in front of it.
theorem ordered_new (lists : ListsOnce names occurrences) {name : String}
    (missing : name ∉ names) : (names ++ [name]).Pairwise fun earlier later =>
      (occurrences ++ [name]).idxOf earlier < (occurrences ++ [name]).idxOf later := by
  refine List.pairwise_append.mpr ⟨lists.ordered_append [name], List.pairwise_singleton _ _, ?_⟩
  intro earlier listed later new
  rw [List.mem_singleton] at new
  subst new
  have occurs := (lists.mem_iff earlier).mp listed
  have absent : later ∉ occurrences := mt (lists.mem_iff later).mpr missing
  rw [List.idxOf_append_of_mem occurs, List.idxOf_append_of_notMem absent]
  exact Nat.lt_add_right _ (List.idxOf_lt_length_of_mem occurs)

theorem intern (lists : ListsOnce names occurrences) (name : String) :
    ListsOnce (intern names name).2 (occurrences ++ [name]) := by
  have mem_iff (other : String) : other ∈ occurrences ++ [name] ↔ other ∈ names ∨ other = name := by
    rw [List.mem_append, List.mem_singleton, lists.mem_iff]
  unfold Syntax.intern
  split
  next member =>
    refine ⟨lists.nodup, fun other => ?_, lists.ordered_append [name]⟩
    rw [mem_iff]
    constructor
    · exact .inl
    · rintro (listed | rfl)
      · exact listed
      · exact member
  next missing =>
    refine ⟨?_, fun other => ?_, lists.ordered_new missing⟩
    · refine List.nodup_append.mpr ⟨lists.nodup, List.pairwise_singleton _ _, ?_⟩
      rintro earlier listed later new rfl
      exact missing (List.mem_singleton.mp new ▸ listed)
    · rw [mem_iff, List.mem_append, List.mem_singleton]

theorem internAll (lists : ListsOnce names occurrences) (added : List String) :
    ListsOnce (internAll names added) (occurrences ++ added) := by
  induction added generalizing names occurrences with
  | nil => simpa [Syntax.internAll] using lists
  | cons name added ih =>
    have later := ih (lists.intern name)
    rwa [List.append_assoc, List.singleton_append] at later

theorem idxOf_iff (lists : ListsOnce names occurrences) (index : Nat) :
    index ∈ occurrences.map names.idxOf ↔ index < names.length := by
  constructor
  · intro member
    obtain ⟨name, occurs, rfl⟩ := List.mem_map.mp member
    exact List.idxOf_lt_length_of_mem ((lists.mem_iff name).mpr occurs)
  · intro inside
    have occurs := (lists.mem_iff _).mp (List.getElem_mem inside)
    exact List.mem_map.mpr ⟨names[index], occurs, lists.nodup.idxOf_getElem index inside⟩

theorem getElem?_idxOf (lists : ListsOnce names occurrences) :
    (occurrences.map names.idxOf).map (names[·]?) = occurrences.map some := by
  rw [List.map_map]
  refine List.map_congr_left fun name occurs => ?_
  exact List.getElem?_idxOf ((lists.mem_iff name).mpr occurs)

end ListsOnce

theorem Derivation.listsOnce_names (d : Derivation (.run .sum)) :
    ListsOnce d.phrase.names d.names := by
  have lists := ListsOnce.nil.internAll d.names
  rw [internAll_nil, List.nil_append] at lists
  rwa [Phrase.names, d.occurrences_phrase]

end Syntax

namespace Formula

open Syntax

theorem namesIn_eq_error_iff (s : String) (fault : Fault Float) :
    namesIn s = .error fault ↔ parse s = .error fault := by
  unfold namesIn parse
  cases Phrase.parse s with
  | error e => simp
  | ok p => simp

theorem namesIn_eq_of_parse {s : String} {f : Formula} (accepted : parse s = .ok f) :
    namesIn s = .ok f.names := by
  unfold parse at accepted
  unfold namesIn
  cases read : Phrase.parse s with
  | error e =>
    rw [read] at accepted
    cases accepted
  | ok p =>
    rw [read] at accepted
    cases accepted
    rfl

theorem listsOnce_of_parse {s : String} {f : Formula} (accepted : parse s = .ok f) :
    ListsOnce f.names (Text.variablesIn (Text.strip s.toList)) := by
  obtain ⟨d, spelled, rfl⟩ := exists_derivation accepted
  rw [← spelled, d.variablesIn_eq]
  exact d.listsOnce_names

theorem slots_of_parse {s : String} {f : Formula} (accepted : parse s = .ok f) :
    f.root.slots = (Text.variablesIn (Text.strip s.toList)).map f.names.idxOf := by
  obtain ⟨d, spelled, rfl⟩ := exists_derivation accepted
  rw [← spelled, d.variablesIn_eq]
  change (d.phrase.tree d.phrase.names).slots = d.names.map d.phrase.names.idxOf
  rw [Derivation.tree_phrase, Derivation.slots_tree]

theorem traversals_of_emits {s : String} {f : Formula} (accepted : parse s = .ok f)
    {pairs : List Pair} (emits : EmitsWhole (Text.strip s.toList) pairs) :
    Pair.climb pairs = .ok f ∧
      Pair.variableNames pairs = Text.variablesIn (Text.strip s.toList) := by
  obtain ⟨d, spelled, climbed, names⟩ := exists_derivation_of_emits emits
  rw [parse_eq_ofPhrase accepted d spelled, climbed, names, ← spelled, d.variablesIn_eq]
  exact ⟨rfl, rfl⟩

theorem names_exact (s : String) :
    (∀ fault : Fault Float, namesIn s = .error fault ↔ parse s = .error fault) ∧
    ∀ f : Formula, parse s = .ok f →
      (∃ names : List String, namesIn s = .ok names ∧
        ∀ name : String, name ∈ names ↔ name ∈ f.names) ∧
      ListsOnce f.names (Text.variablesIn (Text.strip s.toList)) ∧
      (∀ index : Nat, index ∈ f.root.slots ↔ index < f.names.length) ∧
      f.root.slots.map (f.names[·]?) =
        (Text.variablesIn (Text.strip s.toList)).map some ∧
      (∃ pairs : List Pair, EmitsWhole (Text.strip s.toList) pairs) ∧
      ∀ pairs : List Pair, EmitsWhole (Text.strip s.toList) pairs → Pair.climb pairs = .ok f ∧
        Pair.variableNames pairs = Text.variablesIn (Text.strip s.toList) := by
  refine ⟨namesIn_eq_error_iff s, ?_⟩
  intro f accepted
  have lists := listsOnce_of_parse accepted
  obtain ⟨pairs, emits, -⟩ := exists_emits accepted
  refine ⟨⟨f.names, namesIn_eq_of_parse accepted, fun name => Iff.rfl⟩, lists, ?_, ?_,
    ⟨pairs, emits⟩, fun pairs => traversals_of_emits accepted⟩
  · rw [slots_of_parse accepted]
    exact lists.idxOf_iff
  · rw [slots_of_parse accepted]
    exact lists.getElem?_idxOf

theorem names_of_repeated_variable :
    ∃ f : Formula, parse "k * log(x, k) + y" = .ok f ∧ f.names = ["k", "x", "y"] ∧
      f.root.slots.map (f.names[·]?) = ["k", "x", "k", "y"].map some := by
  obtain ⟨f, accepted, names⟩ : ∃ f : Formula,
      parse "k * log(x, k) + y" = .ok f ∧ f.names = ["k", "x", "y"] :=
    ⟨_, rfl, rfl⟩
  obtain ⟨-, -, -, named, -⟩ := (names_exact "k * log(x, k) + y").2 f accepted
  exact ⟨f, accepted, names, named⟩

end Formula

end FormulaNumerics
