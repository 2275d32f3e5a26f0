set_option autoImplicit false

namespace FormulaNumerics

def euler : Float := 2.718281828459045

def variableName : String := "x"

def eulerName : String := "e"

-- No name has two entries as long as entries are made with `insert`.
structure Valuation where
  entries : List (String × Float)

namespace Valuation

def empty : Valuation := ⟨[]⟩

def get? (v : Valuation) (name : String) : Option Float :=
  v.entries.lookup name

def insert (v : Valuation) (name : String) (value : Float) : Valuation :=
  ⟨(name, value) :: v.entries.filter (·.1 != name)⟩

def ofList (entries : List (String × Float)) : Valuation :=
  entries.foldl (fun v (name, value) => v.insert name value) empty

def atPoint (x : Float) : Valuation :=
  (empty.insert variableName x).insert eulerName euler

def same (v w : Valuation) : Bool :=
  v.entries.length == w.entries.length && v.entries.all fun (name, value) =>
    match w.get? name with
    | some other => value == other
    | none => false

instance : BEq Valuation := ⟨same⟩

@[simp] theorem get?_empty (name : String) : empty.get? name = none := rfl

@[simp] theorem get?_insert_self (v : Valuation) (name : String) (value : Float) :
    (v.insert name value).get? name = some value := by
  simp [get?, insert]

theorem get?_insert_of_ne (v : Valuation) {name other : String} (value : Float)
    (h : other ≠ name) : (v.insert name value).get? other = v.get? other := by
  obtain ⟨entries⟩ := v
  have apart : (other == name) = false := beq_eq_false_iff_ne.2 h
  simp only [get?, insert, List.lookup_cons, apart]
  induction entries with
  | nil => rfl
  | cons entry rest ih =>
    obtain ⟨key, _⟩ := entry
    by_cases same : key = name
    · simp [same, List.lookup_cons, apart, ih]
    · simp [same, List.lookup_cons, ih]

end Valuation

end FormulaNumerics
