import Unflatten.Number.FixedInt

/-!
# Bytes in hexadecimal

`encode` writes two lower-case digits a byte. `decode` reads steps of two bytes of text, each as a
number of base sixteen, so that a plus sign may take the place of the first digit of a step. A step
that cuts a character in two has no reading at all.
-/

set_option autoImplicit false

namespace Unflatten.Hex

def encodeByte (byte : UInt8) : List Char :=
  [Digits.hexDigit (byte.toNat / 16), Digits.hexDigit (byte.toNat % 16)]

def encode (bytes : List UInt8) : List Char :=
  bytes.flatMap encodeByte

inductive Fault where
  | oddLength
  | badStep (fault : IntFault)
  | cutCharacter
  deriving DecidableEq, Repr

def decodeStep (high low : Char) : Except IntFault UInt8 :=
  if high = '+' then
    match Digits.hexValue? low with
    | some value => .ok (UInt8.ofNat value)
    | none => .error .invalidDigit
  else
    match Digits.hexValue? high, Digits.hexValue? low with
    | some first, some second => .ok (UInt8.ofNat (16 * first + second))
    | _, _ => .error .invalidDigit

/-- A step of two bytes is two ASCII characters or one character of two bytes. -/
def decodeSteps : List Char → Except Fault (List UInt8)
  | [] => .ok []
  | [high] => if high.utf8Size = 2 then .error (.badStep .invalidDigit) else .error .cutCharacter
  | high :: low :: rest =>
    if high.utf8Size = 2 then .error (.badStep .invalidDigit)
    else if high.utf8Size = 1 ∧ low.utf8Size = 1 then
      match decodeStep high low with
      | .error fault => .error (.badStep fault)
      | .ok byte => (decodeSteps rest).map (byte :: ·)
    else .error .cutCharacter

/-- One lead `0x` may precede the digits. -/
def decode (chars : List Char) : Except Fault (List UInt8) :=
  let digits := (Text.afterLead? ['0', 'x'] chars).getD chars
  if Text.byteLength digits % 2 = 0 then decodeSteps digits else .error .oddLength

end Unflatten.Hex
