import FormulaNumerics.Proofs.Syntax.Reading
import FormulaNumerics.Proofs.Syntax.Tracking

set_option autoImplicit false

namespace FormulaNumerics.Syntax

def Outcome.Leaves {α : Type} (post : List Char → Prop) : Outcome α → Prop
  | .matched _ c _ => post c.rest
  | .failed _ => True
  | .tooDeep => False

namespace Rule

variable {α β : Type}

-- Both rules do the same with each text that satisfies `pre`, and that without being too deep.
def Agree (pre : List Char → Prop) (r s : Rule α) (post : List Char → Prop) : Prop :=
  ∀ (c : Cursor) (f : Frontier), pre c.rest →
    r.run c f = s.run c f ∧ (r.run c f).Leaves post

variable {pre mid post : List Char → Prop} {r s : Rule α} {next next' : α → Rule β}

theorem Agree.strengthen {pre' : List Char → Prop} (h : r.Agree pre s post)
    (weaker : ∀ text, pre' text → pre text) : r.Agree pre' s post :=
  fun c f start => h c f (weaker c.rest start)

theorem Agree.weaken {post' : List Char → Prop} (h : r.Agree pre s post)
    (weaker : ∀ text, post text → post' text) : r.Agree pre s post' := by
  intro c f start
  obtain ⟨same, leaves⟩ := h c f start
  refine ⟨same, ?_⟩
  cases run : r.run c f with
  | matched value c' f' =>
    rw [run] at leaves
    exact weaker c'.rest leaves
  | failed f' => trivial
  | tooDeep => rwa [run] at leaves

theorem agree_pure (value : α) : (pure value : Rule α).Agree pre (pure value) pre :=
  fun _ _ start => ⟨rfl, start⟩

theorem agree_fail : (fail : Rule α).Agree pre fail post :=
  fun _ _ _ => ⟨rfl, trivial⟩

theorem Agree.bind (left : r.Agree pre s mid)
    (right : ∀ value : α, (next value).Agree mid (next' value) post) :
    (r >>= next).Agree pre (s >>= next') post := by
  intro c f start
  obtain ⟨same, leaves⟩ := left c f start
  rw [run_bind, run_bind, ← same]
  cases run : r.run c f with
  | matched value c' f' =>
    rw [run] at leaves
    exact right value c' f' leaves
  | failed f' => exact ⟨rfl, trivial⟩
  | tooDeep => simp [run, Outcome.Leaves] at leaves

theorem Agree.map (g : α → β) (h : r.Agree pre s post) : (g <$> r).Agree pre (g <$> s) post :=
  h.bind fun value => agree_pure (g value)

theorem Agree.orElse {r' s' : Rule α} (left : r.Agree pre s post) (right : r'.Agree pre s' post) :
    (r.orElse r').Agree pre (s.orElse s') post := by
  intro c f start
  obtain ⟨same, leaves⟩ := left c f start
  rw [run_orElse, run_orElse, ← same]
  cases run : r.run c f with
  | matched value c' f' =>
    rw [run] at leaves
    exact ⟨rfl, leaves⟩
  | failed f' => exact right c f' start
  | tooDeep => simp [run, Outcome.Leaves] at leaves

theorem Agree.named (e : Expectation) (h : r.Agree pre s post) :
    (named e r).Agree pre (named e s) post := by
  intro c f start
  obtain ⟨same, leaves⟩ := h c f start
  rw [run_named, run_named, ← same]
  cases run : r.run c f with
  | matched value c' f' =>
    rw [run] at leaves
    exact ⟨rfl, leaves⟩
  | failed f' =>
    refine ⟨rfl, ?_⟩
    simp only []
    split <;> trivial
  | tooDeep => simp [run, Outcome.Leaves] at leaves

theorem settles_span (belongs : Char → Bool) : (span belongs).Settles := by
  intro c f
  simp [span]

theorem settles_atEnd : atEnd.Settles := by
  intro c f
  simp only [atEnd]
  split <;> simp

theorem settles_nonemptySpan (belongs : Char → Bool) : (nonemptySpan belongs).Settles := by
  refine (settles_span belongs).bind fun found => ?_
  intro c f
  split <;> simp

theorem settles_present {r : Rule Unit} (settles : r.Settles) : (present r).Settles :=
  (settles.bind fun _ => settles_pure true).orElse (settles_pure false)

theorem Settles.agree {spec : α → List Char → Prop} (settles : r.Settles) (ensures : r.Ensures spec)
    (keeps : ∀ (value : α) (text rest : List Char), spec value text → pre (text ++ rest) →
      post rest) : r.Agree pre r post := by
  intro c f start
  refine ⟨rfl, ?_⟩
  cases run : r.run c f with
  | matched value c' f' =>
    obtain ⟨text, split, holds⟩ := ensures c c' f f' value run
    exact keeps value text c'.rest holds (split ▸ start)
  | failed f' => trivial
  | tooDeep => exact settles c f run

theorem Settles.agree_self (settles : r.Settles) : r.Agree pre r fun _ => True := by
  intro c f start
  refine ⟨rfl, ?_⟩
  cases run : r.run c f with
  | matched value c' f' => trivial
  | failed f' => trivial
  | tooDeep => exact settles c f run

def rounds (one : Rule α) (more : Rule (List α)) : Rule (List α) :=
  orElse (do
    let value ← one
    let values ← more
    pure (value :: values)) (pure [])

theorem eq_of_run (same : ∀ (c : Cursor) (f : Frontier), r.run c f = s.run c f) : r = s :=
  congrArg Rule.mk (funext fun c => funext fun f => same c f)

theorem repeated_ne_failed (fuel : Nat) (r : Rule α) (c : Cursor) (f f' : Frontier) :
    (repeated fuel r).run c f ≠ .failed f' := by
  induction fuel generalizing c f f' with
  | zero => simp [repeated, collect]
  | succ fuel ih =>
    rw [run_repeated_succ]
    cases r.run c f with
    | matched value c'' f'' =>
      simp only []
      cases run : (repeated fuel r).run c'' f'' with
      | matched values => simp [Outcome.prepend]
      | failed stop => exact absurd run (ih c'' f'' stop)
      | tooDeep => simp [Outcome.prepend]
    | failed => simp
    | tooDeep => simp

theorem repeated_succ (fuel : Nat) (r : Rule α) :
    repeated (fuel + 1) r = rounds r (repeated fuel r) := by
  refine eq_of_run fun c f => ?_
  unfold rounds
  rw [run_repeated_succ, run_orElse, run_bind]
  cases r.run c f with
  | matched value c' f' =>
    simp only [run_bind]
    cases run : (repeated fuel r).run c' f' with
    | matched values c'' f'' => rfl
    | failed f'' => exact absurd run (repeated_ne_failed fuel r c' f' f'')
    | tooDeep => rfl
  | failed f' => rfl
  | tooDeep => rfl

end Rule

end FormulaNumerics.Syntax
