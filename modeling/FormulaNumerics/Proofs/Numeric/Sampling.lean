import FormulaNumerics.Numeric.Difference
import FormulaNumerics.Proofs.Numeric.Panels
import FormulaNumerics.Proofs.Numeric.Walk

set_option autoImplicit false

namespace FormulaNumerics

section

variable {α : Type}

-- The calculation samples at `nodes` in this order, whatever the values there are.
inductive Samples : (nodes : List α) → (refusal : Option (Fault α)) →
    (run : (α → Except (Fault α) α) → Except (Fault α) α) → Prop where
  | result (value : α) : Samples [] none fun _ => .ok value
  | refused (fault : Fault α) : Samples [] (some fault) fun _ => .error fault
  | node {nodes : List α} {refusal : Option (Fault α)}
      {run : α → (α → Except (Fault α) α) → Except (Fault α) α} (node : α)
      (rest : ∀ value, Samples nodes refusal (run value)) :
      Samples (node :: nodes) refusal fun sample => do
        let value ← sample node
        run value sample

def firstFault (sample : α → Except (Fault α) α) : List α → Option (Fault α)
  | [] => none
  | node :: nodes =>
    match sample node with
    | .ok _ => firstFault sample nodes
    | .error fault => some fault

def upToFault (sample : α → Except (Fault α) α) : List α → List α
  | [] => []
  | node :: nodes =>
    match sample node with
    | .ok _ => node :: upToFault sample nodes
    | .error _ => [node]

structure SampledInOrder (nodes : List α) (refusal : Option (Fault α))
    (run : (α → Except (Fault α) α) → Except (Fault α) α) : Prop where
  fails : ∀ sample fault, firstFault sample nodes = some fault → run sample = .error fault
  refused : ∀ sample fault, firstFault sample nodes = none → refusal = some fault →
    run sample = .error fault
  succeeds : ∀ sample, firstFault sample nodes = none → refusal = none →
    ∃ value, run sample = .ok value
  agrees : ∀ sample sample', (∀ node ∈ upToFault sample nodes, sample node = sample' node) →
    run sample = run sample'

variable {nodes : List α} {refusal : Option (Fault α)}
  {run : (α → Except (Fault α) α) → Except (Fault α) α} {sample sample' : α → Except (Fault α) α}

theorem firstFault_eq_none_iff :
    firstFault sample nodes = none ↔ ∀ node ∈ nodes, ∃ value, sample node = .ok value := by
  induction nodes with
  | nil => simp [firstFault]
  | cons node nodes ih =>
    cases sampled : sample node with
    | ok value => simp [firstFault, sampled, ih]
    | error fault => simp [firstFault, sampled]

theorem upToFault_subset : upToFault sample nodes ⊆ nodes := by
  induction nodes with
  | nil => simp [upToFault]
  | cons node nodes ih =>
    unfold upToFault
    split
    next => exact List.cons_subset_cons node ih
    next => simp

theorem Samples.run_of_fault (samples : Samples nodes refusal run) {fault : Fault α}
    (fails : firstFault sample nodes = some fault) : run sample = .error fault := by
  induction samples with
  | result value => cases fails
  | refused fault' => cases fails
  | node node rest ih =>
    unfold firstFault at fails
    cases sampled : sample node with
    | error fault' =>
      simp only [sampled, Option.some.injEq] at fails ⊢
      rw [fails]
      rfl
    | ok value =>
      simp only [sampled] at fails ⊢
      exact ih value fails

theorem Samples.run_of_sound (samples : Samples nodes refusal run)
    (sound : firstFault sample nodes = none) :
    (∀ fault, refusal = some fault → run sample = .error fault) ∧
      (refusal = none → ∃ value, run sample = .ok value) := by
  induction samples with
  | result value => simp
  | refused fault => simp
  | node node rest ih =>
    unfold firstFault at sound
    cases sampled : sample node with
    | error fault =>
      simp only [sampled] at sound
      cases sound
    | ok value =>
      simp only [sampled] at sound ⊢
      exact ih value sound

theorem Samples.congr (samples : Samples nodes refusal run)
    (same : ∀ node ∈ upToFault sample nodes, sample node = sample' node) :
    run sample = run sample' := by
  induction samples with
  | result value => rfl
  | refused fault => rfl
  | node node rest ih =>
    unfold upToFault at same
    cases sampled : sample node with
    | error fault =>
      simp only [sampled, List.mem_singleton, forall_eq] at same ⊢
      rw [← same]
      rfl
    | ok value =>
      simp only [sampled, List.mem_cons, forall_eq_or_imp] at same ⊢
      rw [← same.1]
      exact ih value same.2

theorem Samples.sampledInOrder (samples : Samples nodes refusal run) :
    SampledInOrder nodes refusal run := by
  refine ⟨fun sample fault => samples.run_of_fault, ?_, ?_, fun sample sample' => samples.congr⟩
  · intro sample fault sound
    exact (samples.run_of_sound sound).1 fault
  · intro sample sound
    exact (samples.run_of_sound sound).2

theorem Samples.exists_ok_iff (samples : Samples nodes none run) :
    (∃ value, run sample = .ok value) ↔ ∀ node ∈ nodes, ∃ value, sample node = .ok value := by
  rw [← firstFault_eq_none_iff]
  cases first : firstFault sample nodes with
  | none => simpa using (samples.run_of_sound first).2 rfl
  | some fault => simp [samples.run_of_fault first]

def valueOr (other : α) (sample : α → Except (Fault α) α) (x : α) : α :=
  (sample x).toOption.getD other

theorem Samples.value_eq (samples : Samples nodes none run) {closed : (α → α) → α}
    (total : ∀ f : α → α, run (fun x => .ok (f x)) = .ok (closed f)) {value : α} (other : α)
    (given : run sample = .ok value) : value = closed (valueOr other sample) := by
  have sound := samples.exists_ok_iff.mp ⟨value, given⟩
  have same : run sample = run fun x => .ok (valueOr other sample x) := by
    refine samples.congr fun node among => ?_
    obtain ⟨value', sampled⟩ := sound node (upToFault_subset among)
    simp [valueOr, sampled, Except.toOption]
  exact Except.ok.inj (given.symm.trans (same.trans (total _)))

theorem Samples.map (samples : Samples nodes refusal run) (f : α → α) :
    Samples nodes refusal fun sample => do
      let value ← run sample
      return f value := by
  induction samples with
  | result value => exact .result (f value)
  | refused fault => exact .refused fault
  | node node _ ih =>
    simp only [bind_assoc]
    exact .node node ih

end

namespace DifferenceFormula

variable {α : Type} [Scalar α] {step point : α} (formula : DifferenceFormula)

open Scalar

def nodes (step point : α) : DifferenceFormula → List α
  | .threePoint => [point + step, point - step]
  | .fivePoint => [point + two * step, point + step, point - step, point - two * step]
  | .second => [point + step, point, point - step]

theorem samples_weighted :
    Samples (formula.nodes step point) none fun sample => formula.weighted step point sample := by
  cases formula with
  | threePoint => exact .node _ fun right => .node _ fun left => .result _
  | fivePoint =>
    exact .node _ fun farRight => .node _ fun right => .node _ fun left => .node _ fun farLeft =>
      .result _
  | second => exact .node _ fun right => .node _ fun centre => .node _ fun left => .result _

theorem samples_apply (usable : checkStep step point = .ok ()) :
    Samples (formula.nodes step point) none (formula.apply step point) := by
  have same : formula.apply step point = _ := funext (formula.apply_of_usable usable)
  rw [same]
  exact formula.samples_weighted.map fun sum => sum / formula.divisor step

end DifferenceFormula

namespace QuadratureRule

open Scalar

section

variable {α : Type} [Scalar α] (step start stop : α)

-- Whether the step vanishes beside a position does not depend on any sample.
inductive Strides : (left : α) → (lefts : List α) → (stalls : Bool) → Prop where
  | arrived {left : α} (behind : lt left stop = false) : Strides left [] false
  | stalled {left : α} (before : lt left stop = true) (stuck : (left + step == left) = true) :
      Strides left [left] true
  | onward {left : α} {lefts : List α} {stalls : Bool} (before : lt left stop = true)
      (moves : (left + step == left) = false) (rest : Strides (left + step) lefts stalls) :
      Strides left (left :: lefts) stalls

def gridNodes (count : Nat) : List α :=
  (innerNodes count).map fun index => start + ofCount index * step

inductive Visits : QuadratureRule → (nodes : List α) → (refusal : Option (Fault α)) → Prop where
  | midpoint {lefts : List α} {stalls : Bool} (strides : Strides step stop start lefts stalls) :
      Visits .midpoint (lefts.map (· + step / two))
        (if stalls then some (.invalidRange step start stop) else none)
  | trapezoidal : Visits .trapezoidal
      (start :: stop :: gridNodes step start ((wholeSteps step start stop).toNat - 1)) none
  | empty (same : (start == stop) = true) : Visits .simpson [] none
  | simpson (apart : (start == stop) = false) : Visits .simpson (start :: stop ::
      gridNodes (panelStep step start stop) start ((panels step start stop).toNat - 1)) none

variable {step start stop} {left : α} {lefts : List α} {stalls : Bool}

theorem walk_behind (sample : α → Except (Fault α) α) (behind : lt left stop = false)
    (budget : Nat) (sum : α) : walk step start stop sample budget left sum = .ok sum := by
  cases budget <;> simp [walk, behind]

theorem walk_before (sample : α → Except (Fault α) α) (before : lt left stop = true)
    (budget : Nat) (sum : α) : walk step start stop sample (budget + 1) left sum = (do
      let value ← sample (left + step / two)
      if left + step == left then .error (.invalidRange step start stop)
      else walk step start stop sample budget (left + step) (sum + value)) := by
  rw [walk, if_pos before]
  cases sample (left + step / two) <;> rfl

theorem samples_walk (strides : Strides step stop left lefts stalls) (budget : Nat) (sum : α)
    (enough : lefts.length ≤ budget) : Samples (lefts.map (· + step / two))
      (if stalls then some (.invalidRange step start stop) else none)
      fun sample => walk step start stop sample budget left sum := by
  induction strides generalizing budget sum with
  | arrived behind =>
    simp only [walk_behind _ behind]
    exact .result sum
  | stalled before stuck =>
    obtain ⟨budget, rfl⟩ := Nat.exists_eq_add_of_le' enough
    simp only [List.length_singleton, walk_before _ before, stuck, if_true]
    exact .node _ fun value => .refused _
  | onward before moves _ ih =>
    obtain ⟨budget, rfl⟩ := Nat.exists_eq_add_of_le' enough
    simp only [List.length_cons, ← Nat.add_assoc, walk_before _ before, moves,
      Bool.false_eq_true, if_false]
    exact .node _ fun value => ih _ _ (Nat.le_add_left _ _)

theorem samples_nodes (weight : UInt64 → α → α) (indices : List UInt64) (sum : α) :
    Samples (indices.map fun index => start + ofCount index * step) none fun sample =>
      indices.foldlM (addNode step start sample weight) sum := by
  induction indices generalizing sum with
  | nil => exact .result sum
  | cons index indices ih =>
    simp only [List.foldlM_cons, addNode, bind_assoc]
    exact .node _ fun value => ih _

theorem samples_trapezoidal (valid : checkRange step start stop = .ok ()) :
    Samples (start :: stop :: gridNodes step start ((wholeSteps step start stop).toNat - 1)) none
      fun sample => apply step start stop sample .trapezoidal := by
  simp only [apply_of_valid _ _ valid, trapezoidalSum, addNodes_inner]
  exact .node start fun first => .node stop fun last => (samples_nodes _ _ _).map (step * ·)

theorem samples_simpson (valid : checkRange step start stop = .ok ())
    (apart : (start == stop) = false) :
    Samples (start :: stop ::
        gridNodes (panelStep step start stop) start ((panels step start stop).toNat - 1)) none
      fun sample => apply step start stop sample .simpson := by
  simp only [apply_of_valid _ _ valid, simpsonSum_eq, apart, Bool.false_eq_true, if_false]
  exact .node start fun first => .node stop fun last =>
    (samples_nodes _ _ _).map fun sum => sum * panelStep step start stop / ofCount 3

theorem samples_simpson_of_same (valid : checkRange step start stop = .ok ())
    (same : (start == stop) = true) :
    Samples [] none fun sample => apply step start stop sample .simpson := by
  simp only [apply_of_valid _ _ valid, simpsonSum_eq, same, if_true]
  exact .result zero

theorem samples_midpoint (valid : checkRange step start stop = .ok ())
    (strides : Strides step stop start lefts stalls)
    (enough : lefts.length ≤ positions step start stop) : Samples (lefts.map (· + step / two))
      (if stalls then some (.invalidRange step start stop) else none)
      fun sample => apply step start stop sample .midpoint := by
  simp only [apply_of_valid _ _ valid, midpointSum]
  exact (samples_walk strides _ zero enough).map (step * ·)

theorem Paced.strides {reached : α → Prop} {remaining : α → Nat}
    (paced : Paced step stop reached remaining) (here : reached left) :
    ∃ lefts stalls, Strides step stop left lefts stalls ∧ lefts.length ≤ remaining left := by
  induction many : remaining left using Nat.strong_induction_on generalizing left with
  | _ n ih =>
    cases before : lt left stop with
    | false => exact ⟨[], false, .arrived before, Nat.zero_le _⟩
    | true =>
      have ahead := paced.ahead here before
      cases moves : left + step == left with
      | true => exact ⟨[left], true, .stalled before moves, by simp; omega⟩
      | false =>
        obtain ⟨further, fewer⟩ := paced.onward here before moves
        obtain ⟨lefts, stalls, rest, short⟩ := ih _ (by omega) further rfl
        exact ⟨left :: lefts, stalls, .onward before moves rest, by simp; omega⟩

end

theorem exists_samples {step start stop : Float} (valid : checkRange step start stop = .ok ())
    (rule : QuadratureRule) : ∃ nodes refusal, Visits step start stop rule nodes refusal ∧
      Samples nodes refusal fun sample => apply step start stop sample rule := by
  cases rule with
  | midpoint =>
    have inRange : validRange step start stop = true := by
      by_contra outside
      simp [checkRange, outside] at valid
    have startNumber := isNaN_eq_false_of_isFinite (ranks_of_validRange inRange).2.2.1
    obtain ⟨lefts, stalls, strides, enough⟩ :=
      (paced_of_validRange inRange).strides ⟨startNumber, Nat.le_refl _⟩
    exact ⟨_, _, .midpoint strides, samples_midpoint valid strides enough⟩
  | trapezoidal => exact ⟨_, _, .trapezoidal, samples_trapezoidal valid⟩
  | simpson =>
    cases same : start == stop with
    | true => exact ⟨_, _, .empty same, samples_simpson_of_same valid same⟩
    | false => exact ⟨_, _, .simpson same, samples_simpson valid same⟩

end QuadratureRule

theorem sampled_in_order :
    (∀ (formula : DifferenceFormula) (step point : Float),
      (∀ fault, DifferenceFormula.checkStep step point = .error fault →
        ∀ sample, formula.apply step point sample = .error fault) ∧
      (DifferenceFormula.checkStep step point = .ok () →
        SampledInOrder (formula.nodes step point) none (formula.apply step point))) ∧
    ∀ (rule : QuadratureRule) (step start stop : Float),
      (∀ fault, QuadratureRule.checkRange step start stop = .error fault →
        ∀ sample, rule.apply step start stop sample = .error fault) ∧
      (QuadratureRule.checkRange step start stop = .ok () →
        ∃ nodes refusal, QuadratureRule.Visits step start stop rule nodes refusal ∧
          SampledInOrder nodes refusal fun sample => rule.apply step start stop sample) := by
  refine ⟨fun formula step point => ⟨?_, ?_⟩, fun rule step start stop => ⟨?_, ?_⟩⟩
  · intro fault refused sample
    exact formula.apply_of_refused refused sample
  · intro usable
    exact (formula.samples_apply usable).sampledInOrder
  · intro fault refused sample
    exact rule.apply_of_refused sample refused
  · intro valid
    obtain ⟨nodes, refusal, visits, samples⟩ := QuadratureRule.exists_samples valid rule
    exact ⟨nodes, refusal, visits, samples.sampledInOrder⟩

end FormulaNumerics
