import FormulaNumerics.Syntax.Expectation

set_option autoImplicit false

namespace FormulaNumerics.Syntax

structure Cursor where
  position : Nat
  rest : List Char

def Cursor.start (text : List Char) : Cursor :=
  ⟨0, text⟩

def Cursor.advance (c : Cursor) (count : Nat) : Cursor :=
  ⟨c.position + count, c.rest.drop count⟩

structure Frontier where
  position : Nat
  expected : List Expectation

namespace Frontier

def start : Frontier :=
  ⟨0, []⟩

def countAt (f : Frontier) (position : Nat) : Nat :=
  if position = f.position then f.expected.length else 0

-- At the frontier the failed rule replaces all entries but the first `kept`.
def record (f : Frontier) (position kept : Nat) (e : Expectation) : Frontier :=
  if position = f.position then ⟨position, f.expected.take kept ++ [e]⟩
  else if f.position < position then ⟨position, [e]⟩
  else f

theorem countAt_of_ne {f : Frontier} {position : Nat} (h : position ≠ f.position) :
    f.countAt position = 0 := by
  simp [countAt, h]

theorem record_of_lt {f : Frontier} {position : Nat} (kept : Nat) (e : Expectation)
    (h : position < f.position) : f.record position kept e = f := by
  have here : position ≠ f.position := by omega
  have beyond : ¬ f.position < position := by omega
  simp [record, here, beyond]

theorem record_of_gt {f : Frontier} {position : Nat} (kept : Nat) (e : Expectation)
    (h : f.position < position) : f.record position kept e = ⟨position, [e]⟩ := by
  have here : position ≠ f.position := by omega
  simp [record, here, h]

end Frontier

-- A rule that would enter more nested phrases than it may is `tooDeep`.
inductive Outcome (α : Type) where
  | matched (value : α) (cursor : Cursor) (frontier : Frontier)
  | failed (frontier : Frontier)
  | tooDeep

structure Rule (α : Type) where
  run : Cursor → Frontier → Outcome α

namespace Rule

variable {α β : Type}

def yield (value : α) : Rule α :=
  ⟨fun c f => .matched value c f⟩

def fail : Rule α :=
  ⟨fun _ f => .failed f⟩

def giveUp : Rule α :=
  ⟨fun _ _ => .tooDeep⟩

def andThen (r : Rule α) (next : α → Rule β) : Rule β :=
  ⟨fun c f =>
    match r.run c f with
    | .matched value c' f' => (next value).run c' f'
    | .failed f' => .failed f'
    | .tooDeep => .tooDeep⟩

instance : Monad Rule where
  pure := yield
  bind := andThen

def orElse (r s : Rule α) : Rule α :=
  ⟨fun c f =>
    match r.run c f with
    | .failed f' => s.run c f'
    | decided => decided⟩

def firstOf : List (Rule α) → Rule α
  | [] => fail
  | r :: rs => r.orElse (firstOf rs)

def present (r : Rule Unit) : Rule Bool :=
  (r.andThen fun _ => yield true).orElse (yield false)

def word (letters : List Char) : Rule Unit :=
  ⟨fun c f =>
    if letters.isPrefixOf c.rest then .matched () (c.advance letters.length) f else .failed f⟩

def span (belongs : Char → Bool) : Rule (List Char) :=
  ⟨fun c f =>
    let found := c.rest.takeWhile belongs
    .matched found ⟨c.position + found.length, c.rest.dropWhile belongs⟩ f⟩

def nonemptySpan (belongs : Char → Bool) : Rule (List Char) :=
  (span belongs).andThen fun found => if found.isEmpty then fail else yield found

def atEnd : Rule Unit :=
  ⟨fun c f => if c.rest.isEmpty then .matched () c f else .failed f⟩

-- The matches so far are in `found`, latest first.
def collect (r : Rule α) : (fuel : Nat) → (found : List α) → Cursor → Frontier → Outcome (List α)
  | 0, found, c, f => .matched found.reverse c f
  | fuel + 1, found, c, f =>
    match r.run c f with
    | .matched value c' f' => r.collect fuel (value :: found) c' f'
    | .failed f' => .matched found.reverse c f'
    | .tooDeep => .tooDeep

-- If each match reads something, the length of the text is fuel enough.
def repeated (fuel : Nat) (r : Rule α) : Rule (List α) :=
  ⟨r.collect fuel []⟩

-- Where a rule fails its name replaces all that was looked for inside it at its beginning, unless
-- that is a single entry, which is more precise.
def named (e : Expectation) (r : Rule α) : Rule α :=
  ⟨fun c f =>
    match r.run c f with
    | .failed f' =>
      let before := f.countAt c.position
      if f'.countAt c.position = before + 1 then .failed f'
      else .failed (f'.record c.position before e)
    | decided => decided⟩

@[simp] theorem run_yield (value : α) (c : Cursor) (f : Frontier) :
    (yield value).run c f = .matched value c f := rfl

@[simp] theorem run_pure (value : α) (c : Cursor) (f : Frontier) :
    (pure value : Rule α).run c f = .matched value c f := rfl

@[simp] theorem run_fail (c : Cursor) (f : Frontier) : (fail : Rule α).run c f = .failed f := rfl

@[simp] theorem run_giveUp (c : Cursor) (f : Frontier) : (giveUp : Rule α).run c f = .tooDeep := rfl

theorem run_bind (r : Rule α) (next : α → Rule β) (c : Cursor) (f : Frontier) :
    (r >>= next).run c f =
      match r.run c f with
      | .matched value c' f' => (next value).run c' f'
      | .failed f' => .failed f'
      | .tooDeep => .tooDeep := rfl

theorem run_map (g : α → β) (r : Rule α) (c : Cursor) (f : Frontier) :
    (g <$> r).run c f =
      match r.run c f with
      | .matched value c' f' => .matched (g value) c' f'
      | .failed f' => .failed f'
      | .tooDeep => .tooDeep := rfl

theorem run_orElse (r s : Rule α) (c : Cursor) (f : Frontier) :
    (r.orElse s).run c f =
      match r.run c f with
      | .failed f' => s.run c f'
      | decided => decided := rfl

@[simp] theorem firstOf_nil : firstOf ([] : List (Rule α)) = fail := rfl

theorem run_named (e : Expectation) (r : Rule α) (c : Cursor) (f : Frontier) :
    (named e r).run c f =
      match r.run c f with
      | .failed f' =>
        if f'.countAt c.position = f.countAt c.position + 1 then .failed f'
        else .failed (f'.record c.position (f.countAt c.position) e)
      | decided => decided := rfl

end Rule

end FormulaNumerics.Syntax
