import FormulaNumerics.Formula.Tree
import FormulaNumerics.Formula.Valuation
import FormulaNumerics.Syntax.Parse

set_option autoImplicit false

namespace FormulaNumerics

-- Slot `i` of the tree stands for the name at place `i`.
structure Formula where
  root : Term
  names : List String

namespace Formula

def ofPhrase (p : Syntax.Phrase) : Formula :=
  ⟨p.tree p.names, p.names⟩

def parse (text : String) : Except (Fault Float) Formula :=
  match Syntax.Phrase.parse text with
  | .ok p => .ok (ofPhrase p)
  | .error e => .error (.malformed e)

def namesIn (text : String) : Except (Fault Float) (List String) :=
  match Syntax.Phrase.parse text with
  | .ok p => .ok p.names
  | .error e => .error (.malformed e)

def resolve {α : Type} (answer : String → Option α) :
    List String → Except (Fault Float) (List α)
  | [] => .ok []
  | name :: rest =>
    match answer name with
    | none => .error (.undefinedName name)
    | some found => (resolve answer rest).map (found :: ·)

-- All names are looked up before anything is calculated.
def evaluate (f : Formula) (v : Valuation) : Except (Fault Float) Float := do
  let slots ← resolve v.get? f.names
  f.root.evaluate slots

def bind (f : Formula) (answer : String → Option Source) : Except (Fault Float) Term := do
  let table ← resolve answer f.names
  return f.root.supply table

instance : BEq Formula := ⟨fun f g => f.root == g.root && f.names == g.names⟩

theorem resolve_eq_ok_iff {α : Type} (answer : String → Option α) (names : List String)
    (found : List α) : resolve answer names = .ok found ↔ names.map answer = found.map some := by
  induction names generalizing found with
  | nil => cases found <;> simp [resolve]
  | cons name rest ih =>
    simp only [resolve, List.map_cons]
    cases answer name with
    | none => cases found <;> simp
    | some value =>
      cases found with
      | nil => cases resolve answer rest <;> simp [Except.map]
      | cons first others =>
        cases known : resolve answer rest with
        | error fault =>
          have missing := ih others
          simp_all [Except.map]
        | ok tail =>
          have given := ih others
          simp_all [Except.map]

theorem length_of_resolve {α : Type} {answer : String → Option α} {names : List String}
    {found : List α} (h : resolve answer names = .ok found) : found.length = names.length := by
  simpa using (congrArg List.length ((resolve_eq_ok_iff answer names found).1 h)).symm

end Formula

def evaluate (text : String) (v : Valuation) : Except (Fault Float) Float := do
  let f ← Formula.parse text
  f.evaluate v

end FormulaNumerics
