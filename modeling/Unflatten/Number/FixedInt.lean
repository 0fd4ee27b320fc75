import Unflatten.Number.Digits

/-!
# Integers of fixed width

A `FixedInt kind` is an integer between the kind's least and greatest value. `wrapping` takes any
integer to the one value of the kind that is congruent to it modulo two to the width; `read` reads
decimal text and says why it refuses.
-/

set_option autoImplicit false

namespace Unflatten

inductive IntKind where
  | int8
  | int16
  | int32
  | int64
  | uint8
  | uint16
  | uint32
  | uint64
  deriving DecidableEq, Repr

namespace IntKind

def isSigned : IntKind → Bool
  | int8 | int16 | int32 | int64 => true
  | uint8 | uint16 | uint32 | uint64 => false

def width : IntKind → Nat
  | int8 | uint8 => 8
  | int16 | uint16 => 16
  | int32 | uint32 => 32
  | int64 | uint64 => 64

def least (kind : IntKind) : Int :=
  if kind.isSigned then -(twoTo (kind.width - 1)) else 0

def greatest (kind : IntKind) : Int :=
  if kind.isSigned then twoTo (kind.width - 1) - 1 else twoTo kind.width - 1

def wrap (kind : IntKind) (n : Int) : Int :=
  if kind.isSigned then n.bmod (twoTo kind.width) else n % (twoTo kind.width)

theorem least_le_wrap (kind : IntKind) (n : Int) : kind.least ≤ kind.wrap n := by
  cases kind <;> simp [least, wrap, isSigned, width, twoTo, Int.bmod_def] <;> omega

theorem wrap_le_greatest (kind : IntKind) (n : Int) : kind.wrap n ≤ kind.greatest := by
  cases kind <;> simp [greatest, wrap, isSigned, width, twoTo, Int.bmod_def] <;> omega

end IntKind

structure FixedInt (kind : IntKind) where
  val : Int
  least_le : kind.least ≤ val
  le_greatest : val ≤ kind.greatest
  deriving DecidableEq

inductive IntFault where
  | empty
  | invalidDigit
  | tooLarge
  | tooSmall
  deriving DecidableEq, Repr

def IntFault.message : IntFault → String
  | empty => "cannot parse integer from empty string"
  | invalidDigit => "invalid digit found in string"
  | tooLarge => "number too large to fit in target type"
  | tooSmall => "number too small to fit in target type"

namespace FixedInt

variable {kind : IntKind}

@[ext] theorem ext {left right : FixedInt kind} (same : left.val = right.val) : left = right := by
  cases left; cases right; simp_all

def ofInt? (kind : IntKind) (n : Int) : Option (FixedInt kind) :=
  if h : kind.least ≤ n ∧ n ≤ kind.greatest then some ⟨n, h.1, h.2⟩ else none

def wrapping (kind : IntKind) (n : Int) : FixedInt kind :=
  ⟨kind.wrap n, kind.least_le_wrap n, kind.wrap_le_greatest n⟩

def zero (kind : IntKind) : FixedInt kind :=
  wrapping kind 0

def withDigit (negative : Bool) (number : Int) (c : Char) : Int :=
  if negative then 10 * number - Digits.value c else 10 * number + Digits.value c

/-- Reads digits from the left and stops at the first that is none or leaves the range. -/
def readDigits (kind : IntKind) (negative : Bool) : Int → List Char → Except IntFault Int
  | number, [] => .ok number
  | number, c :: rest =>
    if Digits.isDigit c then
      if kind.greatest < withDigit negative number c then .error .tooLarge
      else if withDigit negative number c < kind.least then .error .tooSmall
      else readDigits kind negative (withDigit negative number c) rest
    else .error .invalidDigit

/-- A sign may precede the digits; a minus sign only where the kind has one. -/
def readChars (kind : IntKind) : List Char → Except IntFault Int
  | [] => .error .empty
  | '+' :: [] => .error .invalidDigit
  | '-' :: [] => .error .invalidDigit
  | '+' :: rest => readDigits kind false 0 rest
  | '-' :: rest => if kind.isSigned then readDigits kind true 0 rest else .error .invalidDigit
  | chars => readDigits kind false 0 chars

theorem readDigits_inRange {negative : Bool} {start number : Int} {chars : List Char}
    (startFits : kind.least ≤ start ∧ start ≤ kind.greatest)
    (done : readDigits kind negative start chars = .ok number) :
    kind.least ≤ number ∧ number ≤ kind.greatest := by
  induction chars generalizing start with
  | nil =>
    simp only [readDigits, Except.ok.injEq] at done
    exact done ▸ startFits
  | cons c rest ih =>
    simp only [readDigits] at done
    split at done
    · split at done
      · contradiction
      · split at done
        · contradiction
        · exact ih (by omega) done
    · contradiction

theorem zero_inRange (kind : IntKind) : kind.least ≤ 0 ∧ 0 ≤ kind.greatest := by
  cases kind <;> decide

theorem readChars_inRange {number : Int} {chars : List Char}
    (done : readChars kind chars = .ok number) :
    kind.least ≤ number ∧ number ≤ kind.greatest := by
  have digits : ∀ {negative rest}, readDigits kind negative 0 rest = .ok number →
      kind.least ≤ number ∧ number ≤ kind.greatest :=
    readDigits_inRange (zero_inRange kind)
  unfold readChars at done
  split at done
  · contradiction
  · contradiction
  · contradiction
  · exact digits done
  · split at done
    · exact digits done
    · contradiction
  · exact digits done

def read (kind : IntKind) (chars : List Char) : Except IntFault (FixedInt kind) :=
  match h : readChars kind chars with
  | .error fault => .error fault
  | .ok number => .ok ⟨number, (readChars_inRange h).1, (readChars_inRange h).2⟩

def text (n : FixedInt kind) : String :=
  Digits.intText n.val

end FixedInt

end Unflatten
