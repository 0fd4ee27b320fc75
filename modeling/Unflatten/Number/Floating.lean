import Unflatten.Number.Digits

/-!
# Binary floating point numbers

A number is kept as its bit pattern. `view` takes the pattern apart, `ofRatio` rounds a quotient of
natural numbers to the nearest number of a format, ties to the even pattern. All arithmetic is done
on natural numbers and integers.
-/

set_option autoImplicit false

namespace Unflatten

structure FloatFormat where
  fractionBits : Nat
  exponentBits : Nat
  deriving DecidableEq, Repr

namespace FloatFormat

def single : FloatFormat := ⟨23, 8⟩

def double : FloatFormat := ⟨52, 11⟩

def width (format : FloatFormat) : Nat :=
  1 + format.exponentBits + format.fractionBits

/-- The smallest positive number is two to this power. -/
def leastExponent (format : FloatFormat) : Int :=
  2 - twoTo (format.exponentBits - 1) - format.fractionBits

def infinityBits (format : FloatFormat) : Nat :=
  (twoTo format.exponentBits - 1) * twoTo format.fractionBits

end FloatFormat

structure Floating (format : FloatFormat) where
  bits : BitVec format.width
  deriving DecidableEq

abbrev Single := Floating .single

abbrev Double := Floating .double

/-- A finite number is `significand * 2 ^ exponent`. -/
inductive FloatView where
  | notANumber
  | infinite (negative : Bool)
  | finite (negative : Bool) (significand : Nat) (exponent : Int)
  deriving DecidableEq, Repr

def divideToEven (numerator denominator : Nat) : Nat :=
  let quotient := numerator / denominator
  let remainder := numerator % denominator
  if 2 * remainder < denominator then quotient
  else if denominator < 2 * remainder then quotient + 1
  else if quotient % 2 = 0 then quotient
  else quotient + 1

def unscaled (numerator denominator : Nat) (exponent : Int) : Nat × Nat :=
  if 0 ≤ exponent then (numerator, denominator * twoTo exponent.toNat)
  else (numerator * twoTo (-exponent).toNat, denominator)

namespace Floating

variable {format : FloatFormat}

def signBits (format : FloatFormat) (negative : Bool) : Nat :=
  if negative then twoTo (format.width - 1) else 0

def ofMagnitude (format : FloatFormat) (negative : Bool) (magnitude : Nat) : Floating format :=
  ⟨BitVec.ofNat _ (signBits format negative + magnitude)⟩

def notANumber (format : FloatFormat) : Floating format :=
  ofMagnitude format false (format.infinityBits + twoTo (format.fractionBits - 1))

def infinity (format : FloatFormat) (negative : Bool) : Floating format :=
  ofMagnitude format negative format.infinityBits

def zero (format : FloatFormat) : Floating format :=
  ofMagnitude format false 0

def isNegative (x : Floating format) : Bool :=
  twoTo (format.width - 1) ≤ x.bits.toNat

def magnitude (x : Floating format) : Nat :=
  x.bits.toNat % twoTo (format.width - 1)

def view (x : Floating format) : FloatView :=
  let field := x.magnitude / twoTo format.fractionBits
  let fraction := x.magnitude % twoTo format.fractionBits
  if field = twoTo format.exponentBits - 1 then
    if fraction = 0 then .infinite x.isNegative else .notANumber
  else if field = 0 then .finite x.isNegative fraction format.leastExponent
  else .finite x.isNegative (twoTo format.fractionBits + fraction) (format.leastExponent + field - 1)

/-- The pattern of the nearest number. Patterns of one sign are in the order of their numbers, and
a carry out of the fraction moves to the next exponent by itself. -/
def nearestMagnitude (format : FloatFormat) (numerator denominator : Nat) : Nat :=
  if numerator = 0 then 0
  else
    let top : Int := (numerator.log2 : Int) - denominator.log2 - format.fractionBits
    let trial := unscaled numerator denominator top
    let exponent :=
      max format.leastExponent
        (if trial.1 / trial.2 < twoTo format.fractionBits then top - 1 else top)
    let scaled := unscaled numerator denominator exponent
    min format.infinityBits
      ((exponent - format.leastExponent).toNat * twoTo format.fractionBits
        + divideToEven scaled.1 scaled.2)

def ofRatio (format : FloatFormat) (negative : Bool) (numerator denominator : Nat) :
    Floating format :=
  ofMagnitude format negative (nearestMagnitude format numerator denominator)

def ofInt (format : FloatFormat) (n : Int) : Floating format :=
  ofRatio format (n < 0) n.natAbs 1

/-- The number nearest to `digits * 10 ^ exponent`. Beyond four hundred places every format of at
most eleven exponent bits has reached infinity or zero. -/
def ofDecimal (format : FloatFormat) (negative : Bool) (digits : Nat) (exponent : Int) :
    Floating format :=
  let places : Int := (Digits.ofNat digits).length + exponent
  if digits = 0 then ofMagnitude format negative 0
  else if 400 < places then infinity format negative
  else if places < -400 then ofMagnitude format negative 0
  else if 0 ≤ exponent then ofRatio format negative (digits * tenTo exponent.toNat) 1
  else ofRatio format negative digits (tenTo (-exponent).toNat)

def isFinite (x : Floating format) : Bool :=
  match x.view with
  | .finite _ _ _ => true
  | _ => false

def isZero (x : Floating format) : Bool :=
  x.magnitude == 0

def isNaN (x : Floating format) : Bool :=
  match x.view with
  | .notANumber => true
  | _ => false

def convert (target : FloatFormat) (x : Floating format) : Floating target :=
  match x.view with
  | .notANumber => notANumber target
  | .infinite negative => infinity target negative
  | .finite negative significand exponent =>
    if 0 ≤ exponent then ofRatio target negative (significand * twoTo exponent.toNat) 1
    else ofRatio target negative significand (twoTo (-exponent).toNat)

def truncated (negative : Bool) (significand : Nat) (exponent : Int) : Int :=
  let size :=
    if 0 ≤ exponent then significand * twoTo exponent.toNat
    else significand / twoTo (-exponent).toNat
  if negative then -(size : Int) else size

def toIntWithin (least greatest : Int) (x : Floating format) : Int :=
  match x.view with
  | .notANumber => 0
  | .infinite negative => if negative then least else greatest
  | .finite negative significand exponent =>
    max least (min greatest (truncated negative significand exponent))

def isIntegral (x : Floating format) : Bool :=
  match x.view with
  | .finite _ significand exponent =>
    0 ≤ exponent || significand % twoTo (-exponent).toNat == 0
  | _ => false

end Floating

end Unflatten
