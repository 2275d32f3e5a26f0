set_option autoImplicit false

namespace FormulaNumerics.Syntax

def maxNesting : Nat := 64

-- A closing parenthesis without a partner closes nothing.
def depthAfter (depth : Nat) : Char → Nat
  | '(' => depth + 1
  | ')' => depth - 1
  | _ => depth

def overNested? (limit depth position : Nat) : List Char → Option Nat
  | [] => none
  | c :: rest =>
    if limit < depthAfter depth c then some position
    else overNested? limit (depthAfter depth c) (position + 1) rest

@[simp] theorem depthAfter_open (depth : Nat) : depthAfter depth '(' = depth + 1 := rfl

@[simp] theorem depthAfter_close (depth : Nat) : depthAfter depth ')' = depth - 1 := rfl

theorem depthAfter_of_ne (depth : Nat) {c : Char} (isNotOpen : c ≠ '(') (isNotClose : c ≠ ')') :
    depthAfter depth c = depth := by
  unfold depthAfter
  split <;> simp_all

theorem depthAfter_le (depth : Nat) (c : Char) : depthAfter depth c ≤ depth + 1 := by
  unfold depthAfter
  split <;> omega

end FormulaNumerics.Syntax
