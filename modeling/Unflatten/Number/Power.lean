/-!
# Powers

Powers of two and of ten among the natural numbers.
-/

set_option autoImplicit false

namespace Unflatten

def twoTo (exponent : Nat) : Nat :=
  Nat.pow 2 exponent

def tenTo (exponent : Nat) : Nat :=
  Nat.pow 10 exponent

theorem tenTo_zero : tenTo 0 = 1 :=
  rfl

theorem tenTo_succ (exponent : Nat) : tenTo (exponent + 1) = tenTo exponent * 10 :=
  rfl

theorem tenTo_pos (exponent : Nat) : 0 < tenTo exponent := by
  induction exponent with
  | zero => decide
  | succ exponent ih => rw [tenTo_succ]; omega

end Unflatten
