import Unflatten.Text.Basic
import Unflatten.Number.Power

/-!
# Numbers as digits

Decimal digits of natural numbers and integers, written without a leading zero, and their reading.
-/

set_option autoImplicit false

namespace Unflatten.Digits

def isDigit (c : Char) : Bool :=
  '0' ≤ c && c ≤ '9'

def value (c : Char) : Nat :=
  c.toNat - '0'.toNat

def ofNat (n : Nat) : List Char :=
  Nat.toDigits 10 n

def ofInt (n : Int) : List Char :=
  if n < 0 then '-' :: ofNat n.natAbs else ofNat n.natAbs

def padded (width n : Nat) : List Char :=
  let digits := ofNat n
  List.replicate (width - digits.length) '0' ++ digits

def toNatFrom (start : Nat) (digits : List Char) : Nat :=
  digits.foldl (fun number c => 10 * number + value c) start

def toNat (digits : List Char) : Nat :=
  toNatFrom 0 digits

def toNat? (chars : List Char) : Option Nat :=
  if chars.isEmpty || !chars.all isDigit then none else some (toNat chars)

def text (n : Nat) : String :=
  String.ofList (ofNat n)

def intText (n : Int) : String :=
  String.ofList (ofInt n)

def hexDigit (n : Nat) : Char :=
  Nat.digitChar n

def hexValue? (c : Char) : Option Nat :=
  if isDigit c then some (value c)
  else if 'a' ≤ c && c ≤ 'f' then some (c.toNat - 'a'.toNat + 10)
  else if 'A' ≤ c && c ≤ 'F' then some (c.toNat - 'A'.toNat + 10)
  else none

end Unflatten.Digits
