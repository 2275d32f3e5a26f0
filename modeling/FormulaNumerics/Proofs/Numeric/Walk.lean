import FormulaNumerics.Numeric.Quadrature
import FormulaNumerics.Proofs.Numeric.Rounding

set_option autoImplicit false

namespace FormulaNumerics

namespace QuadratureRule

open Scalar

section

variable {α : Type} [Scalar α] (step start stop : α) (sample : α → Except (Fault α) α)

-- A walk without a budget comes to the positions `lefts` and has this outcome.
inductive Walks : (left sum : α) → (lefts : List α) → (outcome : Except (Fault α) α) →
    Prop where
  | arrived {left sum : α} (behind : lt left stop = false) : Walks left sum [left] (.ok sum)
  | failed {left sum : α} {fault : Fault α} (before : lt left stop = true)
      (fails : sample (left + step / two) = .error fault) : Walks left sum [left] (.error fault)
  | stalled {left sum value : α} (before : lt left stop = true)
      (sampled : sample (left + step / two) = .ok value) (stuck : (left + step == left) = true) :
      Walks left sum [left] (.error (.invalidRange step start stop))
  | onward {left sum value : α} {lefts : List α} {outcome : Except (Fault α) α}
      (before : lt left stop = true) (sampled : sample (left + step / two) = .ok value)
      (moves : (left + step == left) = false)
      (rest : Walks (left + step) (sum + value) lefts outcome) :
      Walks left sum (left :: lefts) outcome

inductive Ending (last : α) : Except (Fault α) α → Prop where
  | arrived (sum : α) (behind : lt last stop = false) : Ending last (.ok sum)
  | failed {fault : Fault α} (before : lt last stop = true)
      (fails : sample (last + step / two) = .error fault) : Ending last (.error fault)
  | stalled {value : α} (before : lt last stop = true)
      (sampled : sample (last + step / two) = .ok value) (stuck : (last + step == last) = true) :
      Ending last (.error (.invalidRange step start stop))

-- Where a walk can be, and a bound for how often it still goes on from there.
structure Paced (reached : α → Prop) (remaining : α → Nat) : Prop where
  ahead {left : α} (here : reached left) (before : lt left stop = true) : 0 < remaining left
  onward {left : α} (here : reached left) (before : lt left stop = true)
    (moves : (left + step == left) = false) :
    reached (left + step) ∧ remaining (left + step) < remaining left

variable {step start stop sample} {left sum : α} {lefts : List α}
  {outcome : Except (Fault α) α}

theorem Walks.unique {lefts' : List α} {outcome' : Except (Fault α) α}
    (walks : Walks step start stop sample left sum lefts outcome)
    (walks' : Walks step start stop sample left sum lefts' outcome') :
    lefts = lefts' ∧ outcome = outcome' := by
  induction walks generalizing lefts' outcome' with
  | arrived behind =>
    cases walks' with
    | arrived _ => exact ⟨rfl, rfl⟩
    | failed before _ => exact absurd before (by simp [behind])
    | stalled before _ _ => exact absurd before (by simp [behind])
    | onward before _ _ _ => exact absurd before (by simp [behind])
  | failed before fails =>
    cases walks' with
    | arrived behind => exact absurd before (by simp [behind])
    | failed _ fails' =>
      cases fails.symm.trans fails'
      exact ⟨rfl, rfl⟩
    | stalled _ sampled _ => cases fails.symm.trans sampled
    | onward _ sampled _ _ => cases fails.symm.trans sampled
  | stalled before sampled stuck =>
    cases walks' with
    | arrived behind => exact absurd before (by simp [behind])
    | failed _ fails => cases sampled.symm.trans fails
    | stalled _ _ _ => exact ⟨rfl, rfl⟩
    | onward _ _ moves _ => exact absurd stuck (by simp [moves])
  | onward before sampled moves _ ih =>
    cases walks' with
    | arrived behind => exact absurd before (by simp [behind])
    | failed _ fails => cases sampled.symm.trans fails
    | stalled _ _ stuck => exact absurd stuck (by simp [moves])
    | onward _ sampled' _ rest' =>
      cases sampled.symm.trans sampled'
      obtain ⟨rfl, rfl⟩ := ih rest'
      exact ⟨rfl, rfl⟩

theorem Walks.head (walks : Walks step start stop sample left sum lefts outcome) :
    ∃ rest, lefts = left :: rest := by
  cases walks <;> exact ⟨_, rfl⟩

theorem Walks.before (walks : Walks step start stop sample left sum lefts outcome) :
    ∀ position ∈ lefts.dropLast, lt position stop = true := by
  induction walks with
  | arrived behind => simp
  | failed before fails => simp
  | stalled before sampled stuck => simp
  | onward before sampled moves rest ih =>
    obtain ⟨later, rfl⟩ := rest.head
    intro position among
    rw [List.dropLast_cons_cons, List.mem_cons] at among
    obtain rfl | among := among
    · exact before
    · exact ih position among

theorem Walks.ending (walks : Walks step start stop sample left sum lefts outcome) :
    ∃ last, lefts.getLast? = some last ∧ Ending step start stop sample last outcome := by
  induction walks with
  | arrived behind => exact ⟨_, rfl, .arrived _ behind⟩
  | failed before fails => exact ⟨_, rfl, .failed before fails⟩
  | stalled before sampled stuck => exact ⟨_, rfl, .stalled before sampled stuck⟩
  | onward before sampled moves rest ih =>
    obtain ⟨last, latest, ending⟩ := ih
    obtain ⟨later, rfl⟩ := rest.head
    exact ⟨last, by rwa [List.getLast?_cons_cons], ending⟩

theorem Walks.stall (walks : Walks step start stop sample left sum lefts outcome)
    {position value : α} (among : position ∈ lefts) (before : lt position stop = true)
    (stuck : (position + step == position) = true)
    (sampled : sample (position + step / two) = .ok value) :
    lefts.getLast? = some position ∧ outcome = .error (.invalidRange step start stop) := by
  induction walks with
  | arrived behind =>
    cases List.mem_singleton.mp among
    exact absurd before (by simp [behind])
  | failed _ fails =>
    cases List.mem_singleton.mp among
    cases sampled.symm.trans fails
  | stalled _ _ _ =>
    cases List.mem_singleton.mp among
    exact ⟨rfl, rfl⟩
  | onward _ _ moves rest ih =>
    obtain rfl | among := List.mem_cons.mp among
    · exact absurd stuck (by simp [moves])
    · obtain ⟨later, rfl⟩ := rest.head
      rw [List.getLast?_cons_cons]
      exact ih among

variable {reached : α → Prop} {remaining : α → Nat}

theorem Paced.walks (paced : Paced step stop reached remaining)
    (sample : α → Except (Fault α) α) (budget : Nat) (sum : α) (here : reached left)
    (enough : remaining left ≤ budget) :
    ∃ lefts, Walks step start stop sample left sum lefts
      (walk step start stop sample budget left sum) := by
  induction budget generalizing left sum with
  | zero =>
    unfold walk
    cases before : lt left stop with
    -- The walk would be refused here for want of budget.
    | true => exact absurd (paced.ahead here before) (by omega)
    | false => exact ⟨[left], .arrived before⟩
  | succ budget ih =>
    unfold walk
    cases before : lt left stop with
    | false => exact ⟨[left], .arrived before⟩
    | true =>
      simp only [if_true]
      cases sampled : sample (left + step / two) with
      | error fault => exact ⟨[left], .failed before sampled⟩
      | ok value =>
        simp only
        cases moves : left + step == left with
        | true => exact ⟨[left], .stalled before sampled moves⟩
        | false =>
          obtain ⟨further, fewer⟩ := paced.onward here before moves
          obtain ⟨lefts, rest⟩ := ih (sum + value) further (by omega)
          exact ⟨left :: lefts, .onward before sampled moves rest⟩

theorem Paced.positions (paced : Paced step stop reached remaining)
    (walks : Walks step start stop sample left sum lefts outcome) (here : reached left) :
    ∀ position ∈ lefts, reached position ∧ remaining position ≤ remaining left := by
  induction walks with
  | arrived _ => simpa using here
  | failed _ _ => simpa using here
  | stalled _ _ _ => simpa using here
  | onward before _ moves _ ih =>
    obtain ⟨further, fewer⟩ := paced.onward here before moves
    intro position among
    obtain rfl | among := List.mem_cons.mp among
    · exact ⟨here, Nat.le_refl _⟩
    · obtain ⟨there, less⟩ := ih further position among
      exact ⟨there, by omega⟩

theorem Paced.length_le (paced : Paced step stop reached remaining)
    (walks : Walks step start stop sample left sum lefts outcome) (here : reached left) :
    lefts.length ≤ remaining left + 1 := by
  induction walks with
  | arrived _ => simp
  | failed _ _ => simp
  | stalled _ _ _ => simp
  | onward before _ moves _ ih =>
    obtain ⟨further, fewer⟩ := paced.onward here before moves
    have short := ih further
    rw [List.length_cons]
    omega

theorem Paced.descending (paced : Paced step stop reached remaining)
    (walks : Walks step start stop sample left sum lefts outcome) (here : reached left) :
    lefts.Pairwise fun before after => remaining after < remaining before := by
  induction walks with
  | arrived _ => exact List.pairwise_singleton _ _
  | failed _ _ => exact List.pairwise_singleton _ _
  | stalled _ _ _ => exact List.pairwise_singleton _ _
  | onward before _ moves rest ih =>
    obtain ⟨further, fewer⟩ := paced.onward here before moves
    refine List.pairwise_cons.mpr ⟨fun position among => ?_, ih further⟩
    have less := (paced.positions rest further position among).2
    omega

theorem apply_midpoint (valid : validRange step start stop = true) :
    apply step start stop sample .midpoint =
      (walk step start stop sample (positions step start stop) start zero).map (step * ·) := by
  unfold apply checkRange midpointSum
  rw [if_pos valid]
  cases walk step start stop sample (positions step start stop) start zero <;> rfl

end

section

variable {step start stop : Float}

theorem ranks_of_validRange (valid : validRange step start stop = true) :
    step.isFinite = true ∧ 2 ^ 63 < binaryRank step ∧ start.isFinite = true ∧
      stop.isFinite = true ∧ binaryRank start ≤ binaryRank stop := by
  simp only [validRange, Bool.and_eq_true, and_assoc] at valid
  obtain ⟨positive, stepFinite, startFinite, stopFinite, ordered⟩ := valid
  have zeroNumber : (zero : Float).isNaN = false := by decide +kernel
  have zeroRank : binaryRank (zero : Float) = 2 ^ 63 := by decide +kernel
  have above := (lt_iff_binaryRank_lt zeroNumber (isNaN_eq_false_of_isFinite stepFinite)).mp
    (of_decide_eq_true positive)
  rw [zeroRank] at above
  exact ⟨stepFinite, above, startFinite, stopFinite,
    (le_iff_binaryRank_le (isNaN_eq_false_of_isFinite startFinite)
      (isNaN_eq_false_of_isFinite stopFinite)).mp (of_decide_eq_true ordered)⟩

theorem paced_of_validRange (valid : validRange step start stop = true) :
    Paced step stop (fun left => left.isNaN = false ∧ binaryRank start ≤ binaryRank left)
      (fun left => binaryRank stop - binaryRank left) := by
  obtain ⟨stepFinite, positive, startFinite, stopFinite, ordered⟩ := ranks_of_validRange valid
  have stopNumber := isNaN_eq_false_of_isFinite stopFinite
  have less {left : Float} (number : left.isNaN = false) (before : lt left stop = true) :
      binaryRank left < binaryRank stop :=
    (lt_iff_binaryRank_lt number stopNumber).mp (of_decide_eq_true before)
  refine ⟨?_, ?_⟩
  · intro left here before
    have ahead := less here.1 before
    omega
  · intro left here before moves
    obtain ⟨number, behind⟩ := here
    have ahead := less number before
    -- Only the next position may be infinite: this one lies between the two ends.
    have leftFinite : left.isFinite = true := by
      have startBounds := isFinite_iff_binaryRank.mp startFinite
      have stopBounds := isFinite_iff_binaryRank.mp stopFinite
      exact isFinite_iff_binaryRank.mpr ⟨by omega, by omega⟩
    obtain ⟨nextNumber, notBack⟩ := binaryRank_le_add leftFinite stepFinite positive
    have apart : binaryRank (left + step) ≠ binaryRank left := by
      intro same
      exact absurd ((beq_iff_binaryRank_eq nextNumber number).mpr same) (by simp [moves])
    exact ⟨⟨nextNumber, by omega⟩, by omega⟩

theorem midpoint_walk_ends (valid : validRange step start stop = true)
    (sample : Float → Except (Fault Float) Float) :
    ∃ (lefts : List Float) (outcome : Except (Fault Float) Float),
      Walks step start stop sample start zero lefts outcome ∧
      (∀ lefts' outcome', Walks step start stop sample start zero lefts' outcome' →
        lefts' = lefts ∧ outcome' = outcome) ∧
      apply step start stop sample .midpoint = outcome.map (step * ·) ∧
      lefts.length ≤ binaryRank stop - binaryRank start + 1 ∧
      lefts.Pairwise (· < ·) ∧ (∀ left ∈ lefts.dropLast, left < stop) ∧
      (∃ last, lefts.getLast? = some last ∧ Ending step start stop sample last outcome) ∧
      ∀ left ∈ lefts, ∀ value, left < stop → (left + step == left) = true →
        sample (left + step / two) = .ok value →
        lefts.getLast? = some left ∧ outcome = .error (.invalidRange step start stop) := by
  obtain ⟨-, -, startFinite, stopFinite, -⟩ := ranks_of_validRange valid
  have paced := paced_of_validRange valid
  have here : start.isNaN = false ∧ binaryRank start ≤ binaryRank start :=
    ⟨isNaN_eq_false_of_isFinite startFinite, Nat.le_refl _⟩
  obtain ⟨lefts, walks⟩ :=
    paced.walks sample (positions step start stop) zero here (Nat.le_refl _)
  refine ⟨lefts, _, walks, fun _ _ walks' => walks'.unique walks, apply_midpoint valid,
    paced.length_le walks here, ?_, ?_, walks.ending, ?_⟩
  · refine (paced.descending walks here).imp_of_mem fun {p q} amongP amongQ fewer => ?_
    have numberP := (paced.positions walks here p amongP).1.1
    have numberQ := (paced.positions walks here q amongQ).1.1
    exact (lt_iff_binaryRank_lt numberP numberQ).mpr (by omega)
  · intro left among
    exact of_decide_eq_true (walks.before left among)
  · intro left among value before stuck sampled
    exact walks.stall among (decide_eq_true before) stuck sampled

-- Beside `1e20` a step of `1` vanishes, so the walk is refused where it starts.
theorem midpoint_stalls_at_large_start : validRange 1.0 1e20 (2e20 : Float) = true ∧
    apply 1.0 1e20 (2e20 : Float) (fun x => .ok x) .midpoint =
      .error (.invalidRange 1.0 1e20 2e20) := by
  have valid : validRange 1.0 1e20 (2e20 : Float) = true := by decide +kernel
  obtain ⟨lefts, outcome, walks, -, applied, -, -, -, -, stalls⟩ :=
    midpoint_walk_ends valid fun x => .ok x
  obtain ⟨rest, rfl⟩ := walks.head
  obtain ⟨-, rfl⟩ :=
    stalls 1e20 List.mem_cons_self _ (by decide +kernel) (by decide +kernel) rfl
  exact ⟨valid, applied⟩

end

end QuadratureRule

end FormulaNumerics
