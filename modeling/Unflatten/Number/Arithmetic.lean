import Unflatten.Number.Floating

/-!
# Arithmetic of floating point numbers

Sums, products, quotients and remainders are computed exactly and rounded once. Numbers are ordered
by their bit patterns, which within one sign are in the order of the numbers.
-/

set_option autoImplicit false

namespace Unflatten.Floating

variable {format : FloatFormat}

def negate (x : Floating format) : Floating format :=
  ofMagnitude format (!x.isNegative) x.magnitude

def signedInt (negative : Bool) (significand : Nat) : Int :=
  if negative then -(significand : Int) else significand

def ofScaled (format : FloatFormat) (negativeZero : Bool) (n exponent : Int) : Floating format :=
  if n = 0 then ofMagnitude format negativeZero 0
  else if 0 ≤ exponent then ofRatio format (n < 0) (n.natAbs * twoTo exponent.toNat) 1
  else ofRatio format (n < 0) n.natAbs (twoTo (-exponent).toNat)

def aligned (left right : Int) (leftExponent rightExponent : Int) : Int × Int × Int :=
  let exponent := min leftExponent rightExponent
  (left * twoTo (leftExponent - exponent).toNat, right * twoTo (rightExponent - exponent).toNat,
    exponent)

def add (x y : Floating format) : Floating format :=
  match x.view, y.view with
  | .notANumber, _ => notANumber format
  | _, .notANumber => notANumber format
  | .infinite left, .infinite right =>
    if left = right then infinity format left else notANumber format
  | .infinite left, .finite _ _ _ => infinity format left
  | .finite _ _ _, .infinite right => infinity format right
  | .finite negative significand exponent, .finite otherNegative otherSignificand otherExponent =>
    let (left, right, scale) :=
      aligned (signedInt negative significand) (signedInt otherNegative otherSignificand) exponent
        otherExponent
    ofScaled format (negative && otherNegative) (left + right) scale

def subtract (x y : Floating format) : Floating format :=
  x.add y.negate

def multiply (x y : Floating format) : Floating format :=
  let negative := x.isNegative != y.isNegative
  match x.view, y.view with
  | .notANumber, _ => notANumber format
  | _, .notANumber => notANumber format
  | .infinite _, _ => if y.isZero then notANumber format else infinity format negative
  | _, .infinite _ => if x.isZero then notANumber format else infinity format negative
  | .finite _ significand exponent, .finite _ otherSignificand otherExponent =>
    ofScaled format negative (signedInt negative (significand * otherSignificand))
      (exponent + otherExponent)

/-- Division by zero gives an infinity. -/
def divide (x y : Floating format) : Floating format :=
  let negative := x.isNegative != y.isNegative
  match x.view, y.view with
  | .notANumber, _ => notANumber format
  | _, .notANumber => notANumber format
  | .infinite _, .infinite _ => notANumber format
  | .infinite _, .finite _ _ _ => infinity format negative
  | .finite _ _ _, .infinite _ => ofMagnitude format negative 0
  | .finite _ significand exponent, .finite _ otherSignificand otherExponent =>
    if otherSignificand = 0 then
      if significand = 0 then notANumber format else infinity format negative
    else
      let shift := exponent - otherExponent
      if 0 ≤ shift then ofRatio format negative (significand * twoTo shift.toNat) otherSignificand
      else ofRatio format negative significand (otherSignificand * twoTo (-shift).toNat)

/-- What is left of `x` after a whole number of steps toward zero, with the sign of `x`. -/
def remainder (x y : Floating format) : Floating format :=
  match x.view, y.view with
  | .notANumber, _ => notANumber format
  | _, .notANumber => notANumber format
  | .infinite _, _ => notANumber format
  | .finite _ _ _, .infinite _ => x
  | .finite negative significand exponent, .finite _ otherSignificand otherExponent =>
    if otherSignificand = 0 then notANumber format
    else
      let (left, right, scale) := aligned significand otherSignificand exponent otherExponent
      ofScaled format negative (signedInt negative (left % right).toNat) scale

/-- A key in the order of the numbers; the two zeros share one. -/
def orderKey (x : Floating format) : Int :=
  signedInt x.isNegative x.magnitude

def less (x y : Floating format) : Bool :=
  !x.isNaN && !y.isNaN && x.orderKey < y.orderKey

/-- No number equals what is not a number. -/
def same (x y : Floating format) : Bool :=
  !x.isNaN && !y.isNaN && x.orderKey == y.orderKey

/-- The smaller number, or the only one. -/
def least (x y : Floating format) : Floating format :=
  if x.isNaN then y else if y.less x then y else x

def greatest (x y : Floating format) : Floating format :=
  if x.isNaN then y else if x.less y then y else x

/-- A finite number changed to the integer that `round` gives for its sign, its integral part and
whether there is and what is the rest of it in halves: nothing, less than a half, or at least one. -/
def toIntegral (round : Bool → Nat → Nat → Nat) (x : Floating format) : Floating format :=
  match x.view with
  | .finite negative significand exponent =>
    if 0 ≤ exponent then x
    else
      let unit := twoTo (-exponent).toNat
      let whole := significand / unit
      let rest := significand % unit
      let halves := if rest = 0 then 0 else if 2 * rest < unit then 1 else 2
      ofRatio format negative (round negative whole halves) 1
  | _ => x

def floor (x : Floating format) : Floating format :=
  x.toIntegral fun negative whole halves => if negative && halves != 0 then whole + 1 else whole

def ceiling (x : Floating format) : Floating format :=
  x.toIntegral fun negative whole halves => if !negative && halves != 0 then whole + 1 else whole

/-- Halves go away from zero. -/
def round (x : Floating format) : Floating format :=
  x.toIntegral fun _ whole halves => if halves = 2 then whole + 1 else whole

end Unflatten.Floating

namespace Unflatten

/-- A power is rounded by the machine's own function. -/
def doublePower (x y : Double) : Double :=
  let power := Float.ofBits (UInt64.ofBitVec x.bits) ^ Float.ofBits (UInt64.ofBitVec y.bits)
  ⟨power.toBits.toBitVec⟩

end Unflatten
