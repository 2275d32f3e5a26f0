import Mathlib
import FormulaNumerics.Proofs.Meaning.Faults
import FormulaNumerics.Proofs.Meaning.Variables

set_option autoImplicit false

namespace FormulaNumerics

section Numbers

def finite? (text : String) : Option Float :=
  (Decimal.read? (Text.trim text.toList)).filter Float.isFinite

def firstUnreadable (fields : List (String × String)) : Option Unreadable :=
  (fields.find? fun (_, text) => (finite? text).isNone).map fun (field, text) => ⟨field, text⟩

theorem isFinite_of_finite? {text : String} {value : Float} (shown : finite? text = some value) :
    value.isFinite = true :=
  (Option.filter_eq_some_iff.mp shown).2

theorem readNumber_of_finite {text : String} {value : Float} (shown : finite? text = some value)
    (field : String) : readNumber field text = .ok value := by
  obtain ⟨read, finite⟩ := Option.filter_eq_some_iff.mp shown
  unfold readNumber
  simp only [read, finite, if_true]

theorem readNumber_of_none {text : String} (unreadable : finite? text = none) (field : String) :
    readNumber field text = .error ⟨field, text⟩ := by
  unfold readNumber
  cases read : Decimal.read? (Text.trim text.toList) with
  | none => rfl
  | some value =>
    have infinite : value.isFinite = false := by simpa [finite?, read] using unreadable
    simp [infinite]

theorem bind_readNumber_of_unreadable {field text : String} {others : List (String × String)}
    {unreadable : Unreadable} {next : Float → Except Unreadable Report}
    (first : firstUnreadable ((field, text) :: others) = some unreadable)
    (later : ∀ value : Float, firstUnreadable others = some unreadable →
      next value = .error unreadable) :
    (readNumber field text >>= next) = .error unreadable := by
  -- Either the field is read and the unreadable one comes later, or it is this one.
  cases shown : finite? text with
  | some value =>
    rw [readNumber_of_finite shown]
    refine later value ?_
    rwa [firstUnreadable, List.find?_cons_of_neg (by simp [shown])] at first
  | none =>
    rw [readNumber_of_none shown]
    rw [firstUnreadable, List.find?_cons_of_pos (by simp [shown])] at first
    cases first
    rfl

theorem scalar_zero : (Scalar.zero : Float) = 0 := by
  decide +kernel

theorem beq_zero_iff (x : Float) : (x == 0) = true ↔ x = 0 ∨ x = -0 := by
  have zeroIsNumber : (0 : Float) ≠ Float.nan := by decide +kernel
  have minusZeroIsNumber : (-0 : Float) ≠ Float.nan := by decide +kernel
  rw [Float.beq_iff_ne_nan_and_eq]
  constructor
  · rintro ⟨-, -, rfl | ⟨rfl, -⟩ | ⟨rfl, -⟩⟩
    · exact .inl rfl
    · exact .inl rfl
    · exact .inr rfl
  · rintro (rfl | rfl)
    · exact ⟨zeroIsNumber, zeroIsNumber, .inl rfl⟩
    · exact ⟨minusZeroIsNumber, zeroIsNumber, .inr (.inr ⟨rfl, rfl⟩)⟩

end Numbers

theorem Curve.refusal?_ne_invalidStep (s : String) (step point : Float) :
    refusal? s ≠ some (.invalidStep step point) := by
  unfold refusal?
  cases Syntax.Phrase.parse s with
  | error e => simp
  | ok p => simp

section Checks

variable {step start stop point : Float}

theorem QuadratureRule.checkRange_eq (stepFinite : step.isFinite = true)
    (startFinite : start.isFinite = true) (stopFinite : stop.isFinite = true) :
    checkRange step start stop =
      if 0 < step ∧ start ≤ stop then .ok () else .error (.invalidRange step start stop) := by
  have valid : validRange step start stop = decide (0 < step ∧ start ≤ stop) := by
    simp [validRange, scalar_zero, Scalar.lt, Scalar.le, Scalar.isFinite, stepFinite, startFinite,
      stopFinite]
  rw [checkRange, valid]
  simp only [decide_eq_true_eq]

theorem DifferenceFormula.checkStep_eq (stepFinite : step.isFinite = true)
    (pointFinite : point.isFinite = true) :
    checkStep step point = if step = 0 ∨ step = -0 then .error .divisionByZero else .ok () := by
  have usable : (!Scalar.isFinite step || !Scalar.isFinite point) = false := by
    simp [Scalar.isFinite, stepFinite, pointFinite]
  unfold checkStep
  rw [scalar_zero, usable]
  simp only [beq_zero_iff, Bool.false_eq_true, if_false]

end Checks

namespace Request

variable {s : String}

theorem outcome_of_refusal {fault : Fault Float} (request : Request)
    (refused : Curve.refusal? s = some fault) : (request.run s).outcome = .error fault := by
  obtain ⟨fault', same, failed⟩ | ⟨sound, -⟩ := Curve.ofText_cases s
  · rw [refused, Option.some.injEq] at same
    unfold run
    rw [failed, same]
    cases request <;> rfl
  · rw [refused] at sound
    cases sound

theorem outcome_of_sound (request : Request) (sound : Curve.refusal? s = none) :
    ∃ c : Curve, Curve.ofText s = .ok c ∧ (request.run s).outcome = request.apply c := by
  obtain ⟨fault, refused, -⟩ | ⟨-, c, built⟩ := Curve.ofText_cases s
  · rw [sound] at refused
    cases refused
  · refine ⟨c, built, ?_⟩
    unfold run
    rw [built]

theorem arithmetic_or_refusal {request : Request} {fault : Fault Float}
    (failed : (request.run s).outcome = .error fault)
    (calculated : ∀ c : Curve, Curve.ofText s = .ok c → Calculated (request.apply c)) :
    fault.Arithmetic ∨ Curve.refusal? s = some fault := by
  cases refusal : Curve.refusal? s with
  | some fault' =>
    rw [request.outcome_of_refusal refusal, Except.error.injEq] at failed
    exact .inr (congrArg some failed)
  | none =>
    obtain ⟨c, built, outcome⟩ := request.outcome_of_sound refusal
    exact .inl (calculated c built fault (outcome.symm.trans failed))

end Request

namespace DifferenceFormula

variable {step point : Float} (formula : DifferenceFormula)

theorem calculated_weighted {sample : Float → Except (Fault Float) Float}
    (each : ∀ x : Float, Calculated (sample x)) :
    Calculated (formula.weighted step point sample) := by
  cases formula with
  | threePoint =>
    refine (each _).bind fun right => ?_
    exact (each _).bind fun left => .ok _
  | fivePoint =>
    refine (each _).bind fun farRight => (each _).bind fun right => ?_
    exact (each _).bind fun left => (each _).bind fun farLeft => .ok _
  | second =>
    refine (each _).bind fun right => ?_
    exact (each _).bind fun centre => (each _).bind fun left => .ok _

theorem calculated_apply (check : checkStep step point =
      if step = 0 ∨ step = -0 then .error .divisionByZero else .ok ())
    {sample : Float → Except (Fault Float) Float} (each : ∀ x : Float, Calculated (sample x)) :
    Calculated (formula.apply step point sample) := by
  unfold apply
  rw [check]
  refine Calculated.bind (.guarded .divisionByZero (.ok _)) fun _ => ?_
  exact (formula.calculated_weighted each).bind fun sum => .ok _

end DifferenceFormula

section Texts

variable (s : String)

theorem evaluateAtText_of_unreadable {x : String} {unreadable : Unreadable}
    (first : firstUnreadable [("x", x)] = some unreadable) :
    evaluateAtText s x = .error unreadable := by
  refine bind_readNumber_of_unreadable first fun value none => ?_
  cases none

theorem evaluateAtText_of_finite {x : String} {value : Float} (shown : finite? x = some value) :
    evaluateAtText s x = .ok (evaluateAt s value) := by
  rw [evaluateAtText, readNumber_of_finite shown]
  rfl

section Derivatives

variable (formula : DifferenceFormula) {h x : String} {step point : Float}

theorem derivativeText_of_unreadable {unreadable : Unreadable}
    (first : firstUnreadable [("step size", h), ("point", x)] = some unreadable) :
    derivativeText formula h x s = .error unreadable := by
  refine bind_readNumber_of_unreadable first fun step first => ?_
  refine bind_readNumber_of_unreadable first fun point none => ?_
  cases none

theorem derivativeText_of_finite (stepShown : finite? h = some step)
    (pointShown : finite? x = some point) :
    derivativeText formula h x s = .ok (derivative formula step point s) := by
  rw [derivativeText, readNumber_of_finite stepShown, readNumber_of_finite pointShown]
  rfl

theorem derivative_of_sound (stepFinite : step.isFinite = true)
    (pointFinite : point.isFinite = true) (sound : Curve.refusal? s = none) :
    ∃ c : Curve, Curve.ofText s = .ok c ∧
      (step = 0 ∨ step = -0 →
        (derivative formula step point s).outcome = .error .divisionByZero) ∧
      (¬ (step = 0 ∨ step = -0) → (derivative formula step point s).outcome = (do
        let sum ← formula.weighted step point c.value
        return sum / formula.divisor step)) := by
  obtain ⟨c, built, outcome⟩ := (Request.derivative formula step point).outcome_of_sound sound
  have check := DifferenceFormula.checkStep_eq stepFinite pointFinite
  refine ⟨c, built, ?_, ?_⟩
  · intro zero
    rw [if_pos zero] at check
    exact outcome.trans (formula.apply_of_refused check c.value)
  · intro nonzero
    rw [if_neg nonzero] at check
    exact outcome.trans (formula.apply_of_usable check c.value)

theorem derivative_ne_invalidStep (stepFinite : step.isFinite = true)
    (pointFinite : point.isFinite = true) (step' point' : Float) :
    (derivative formula step point s).outcome ≠ .error (.invalidStep step' point') := by
  have check := DifferenceFormula.checkStep_eq stepFinite pointFinite
  intro invalid
  obtain arithmetic | refusal := Request.arithmetic_or_refusal invalid fun c built =>
    formula.calculated_apply check (Curve.calculated_value (Curve.within_of_ofText built))
  · cases arithmetic
  · exact Curve.refusal?_ne_invalidStep s step' point' refusal

end Derivatives

section Integrals

variable (rule : QuadratureRule) {h a b : String} {step start stop : Float}

theorem integrateText_of_unreadable {unreadable : Unreadable} (first : firstUnreadable
      [("step size", h), ("interval start", a), ("interval end", b)] = some unreadable) :
    integrateText rule h a b s = .error unreadable := by
  refine bind_readNumber_of_unreadable first fun step first => ?_
  refine bind_readNumber_of_unreadable first fun start first => ?_
  refine bind_readNumber_of_unreadable first fun stop none => ?_
  cases none

example : integrateText rule "0.1" " one" "inf" s = .error ⟨"interval start", " one"⟩ := rfl

theorem integrateText_of_finite (stepShown : finite? h = some step)
    (startShown : finite? a = some start) (stopShown : finite? b = some stop) :
    integrateText rule h a b s = .ok (integrate rule step start stop s) := by
  rw [integrateText, readNumber_of_finite stepShown, readNumber_of_finite startShown,
    readNumber_of_finite stopShown]
  rfl

theorem integrate_of_sound (stepFinite : step.isFinite = true) (startFinite : start.isFinite = true)
    (stopFinite : stop.isFinite = true) (sound : Curve.refusal? s = none) :
    ∃ c : Curve, Curve.ofText s = .ok c ∧
      (integrate rule step start stop s).outcome = rule.apply step start stop c.value ∧
      (¬ (0 < step ∧ start ≤ stop) →
        rule.apply step start stop c.value = .error (.invalidRange step start stop)) ∧
      (0 < step ∧ start ≤ stop → QuadratureRule.checkRange step start stop = .ok ()) := by
  obtain ⟨c, built, outcome⟩ := (Request.integral rule step start stop).outcome_of_sound sound
  have range := QuadratureRule.checkRange_eq stepFinite startFinite stopFinite
  refine ⟨c, built, outcome, ?_, ?_⟩
  · intro invalid
    rw [if_neg invalid] at range
    exact rule.apply_of_refused c.value range
  · intro valid
    rw [range, if_pos valid]

end Integrals

theorem textRequests_priority :
    (∀ x : String,
      (∀ unreadable : Unreadable, firstUnreadable [("x", x)] = some unreadable →
        evaluateAtText s x = .error unreadable) ∧
      ∀ value : Float, finite? x = some value →
        evaluateAtText s x = .ok (evaluateAt s value) ∧
        (∀ fault : Fault Float, Curve.refusal? s = some fault →
          (evaluateAt s value).outcome = .error fault) ∧
        (Curve.refusal? s = none → ∃ c : Curve, Curve.ofText s = .ok c ∧
          (evaluateAt s value).outcome = c.value value)) ∧
    (∀ (formula : DifferenceFormula) (h x : String),
      (∀ unreadable : Unreadable,
        firstUnreadable [("step size", h), ("point", x)] = some unreadable →
        derivativeText formula h x s = .error unreadable) ∧
      ∀ step point : Float, finite? h = some step → finite? x = some point →
        derivativeText formula h x s = .ok (derivative formula step point s) ∧
        (∀ fault : Fault Float, Curve.refusal? s = some fault →
          (derivative formula step point s).outcome = .error fault) ∧
        (Curve.refusal? s = none → ∃ c : Curve, Curve.ofText s = .ok c ∧
          (step = 0 ∨ step = -0 →
            (derivative formula step point s).outcome = .error .divisionByZero) ∧
          (¬ (step = 0 ∨ step = -0) → (derivative formula step point s).outcome = (do
            let sum ← formula.weighted step point c.value
            return sum / formula.divisor step))) ∧
        ∀ step' point' : Float,
          (derivative formula step point s).outcome ≠ .error (.invalidStep step' point')) ∧
    (∀ (rule : QuadratureRule) (h a b : String),
      (∀ unreadable : Unreadable, firstUnreadable
          [("step size", h), ("interval start", a), ("interval end", b)] = some unreadable →
        integrateText rule h a b s = .error unreadable) ∧
      ∀ step start stop : Float, finite? h = some step → finite? a = some start →
        finite? b = some stop →
        integrateText rule h a b s = .ok (integrate rule step start stop s) ∧
        (∀ fault : Fault Float, Curve.refusal? s = some fault →
          (integrate rule step start stop s).outcome = .error fault) ∧
        (Curve.refusal? s = none → ∃ c : Curve, Curve.ofText s = .ok c ∧
          (integrate rule step start stop s).outcome = rule.apply step start stop c.value ∧
          (¬ (0 < step ∧ start ≤ stop) →
            rule.apply step start stop c.value = .error (.invalidRange step start stop)) ∧
          (0 < step ∧ start ≤ stop → QuadratureRule.checkRange step start stop = .ok ()))) := by
  refine ⟨fun x => ⟨fun _ => evaluateAtText_of_unreadable s, ?_⟩,
    fun formula h x => ⟨fun _ => derivativeText_of_unreadable s formula, ?_⟩,
    fun rule h a b => ⟨fun _ => integrateText_of_unreadable s rule, ?_⟩⟩
  · intro value shown
    exact ⟨evaluateAtText_of_finite s shown, fun fault => Request.outcome_of_refusal _,
      Request.outcome_of_sound _⟩
  · intro step point stepShown pointShown
    have stepFinite := isFinite_of_finite? stepShown
    have pointFinite := isFinite_of_finite? pointShown
    exact ⟨derivativeText_of_finite s formula stepShown pointShown,
      fun fault => Request.outcome_of_refusal _,
      derivative_of_sound s formula stepFinite pointFinite,
      derivative_ne_invalidStep s formula stepFinite pointFinite⟩
  · intro step start stop stepShown startShown stopShown
    exact ⟨integrateText_of_finite s rule stepShown startShown stopShown,
      fun fault => Request.outcome_of_refusal _,
      integrate_of_sound s rule (isFinite_of_finite? stepShown) (isFinite_of_finite? startShown)
        (isFinite_of_finite? stopShown)⟩

end Texts

end FormulaNumerics
