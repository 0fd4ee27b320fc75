import Unflatten.Number.Floating

/-!
# Decimal numbers

A decimal is a mantissa below `2 ^ 96` over a power of ten of at most `10 ^ 28`, with a sign that
zero may carry too. Trailing zeros of the mantissa are kept, so `2.50` and `2.5` differ until they
are normalized.
-/

set_option autoImplicit false

namespace Unflatten

def mantissaLimit : Nat := twoTo 96

def greatestScale : Nat := 28

structure Decimal where
  negative : Bool
  mantissa : Nat
  scale : Nat
  mantissa_lt : mantissa < mantissaLimit
  scale_le : scale ≤ greatestScale
  deriving DecidableEq

namespace Decimal

def ofParts? (negative : Bool) (mantissa scale : Nat) : Option Decimal :=
  if h : mantissa < mantissaLimit ∧ scale ≤ greatestScale then
    some ⟨negative, mantissa, scale, h.1, h.2⟩
  else none

def zero : Decimal :=
  ⟨false, 0, 0, by decide, by decide⟩

instance : Inhabited Decimal := ⟨zero⟩

def ofInt? (n : Int) : Option Decimal :=
  ofParts? (n < 0) n.natAbs 0

def isZero (d : Decimal) : Bool :=
  d.mantissa == 0

/-- The integral part, toward zero. -/
def truncate (d : Decimal) : Int :=
  let size := d.mantissa / tenTo d.scale
  if d.negative then -(size : Int) else size

def toFloating (format : FloatFormat) (d : Decimal) : Floating format :=
  Floating.ofRatio format d.negative d.mantissa (tenTo d.scale)

/-- Mantissa and scale without the trailing zeros that stand behind the point. -/
def stripZeros : Nat → Nat → Nat × Nat
  | mantissa, 0 => (mantissa, 0)
  | mantissa, scale + 1 =>
    if mantissa % 10 = 0 then stripZeros (mantissa / 10) scale else (mantissa, scale + 1)

theorem stripZeros_le (mantissa scale : Nat) :
    (stripZeros mantissa scale).1 ≤ mantissa ∧ (stripZeros mantissa scale).2 ≤ scale := by
  induction scale generalizing mantissa with
  | zero => simp [stripZeros]
  | succ scale ih =>
    unfold stripZeros
    split
    · have bound := ih (mantissa / 10)
      omega
    · simp

/-- The same number in the fewest digits; zero loses its sign. -/
def normalize (d : Decimal) : Decimal :=
  if d.mantissa = 0 then zero
  else
    have bound := stripZeros_le d.mantissa d.scale
    { negative := d.negative
      mantissa := (stripZeros d.mantissa d.scale).1
      scale := (stripZeros d.mantissa d.scale).2
      mantissa_lt := Nat.lt_of_le_of_lt bound.1 d.mantissa_lt
      scale_le := Nat.le_trans bound.2 d.scale_le }

def chars (d : Decimal) : List Char :=
  let digits := Digits.padded (d.scale + 1) d.mantissa
  let whole := digits.take (digits.length - d.scale)
  let body := if d.scale = 0 then whole else whole ++ '.' :: digits.drop whole.length
  if d.negative then '-' :: body else body

def text (d : Decimal) : String :=
  String.ofList d.chars

/-! ## From text -/

inductive Fault where
  | empty
  | noDigits
  | leadingUnderscore
  | secondPoint
  | unknownCharacter
  | tooManyDigits
  | roundedOver
  | exponent
  deriving DecidableEq, Repr

def Fault.message : Fault → String
  | empty => "Invalid decimal: empty"
  | noDigits => "Invalid decimal: no digits found"
  | leadingUnderscore => "Invalid decimal: must start lead with a number"
  | secondPoint => "Invalid decimal: two decimal points"
  | unknownCharacter => "Invalid decimal: unknown character"
  | tooManyDigits => "Invalid decimal: overflow from too many digits"
  | roundedOver => "Invalid decimal: overflow from mantissa after rounding"
  | exponent => "Failed to parse"

def strayFault (c : Char) : Fault :=
  if c = '.' then .secondPoint else if c = '_' then .leadingUnderscore else .unknownCharacter

/-- Digits read so far: their number, how many stand behind the point, whether the point and
whether any digit has been seen. -/
structure Reading where
  mantissa : Nat
  scale : Nat
  pointed : Bool
  started : Bool

/-- The first digit that has no room rounds those before it, halves away from zero. The digits
behind it are not looked at. -/
def Reading.roundedBy (state : Reading) (next : Char) : Except Fault (Nat × Nat) :=
  let digit? :=
    if Digits.isDigit next then some (Digits.value next)
    else if next = '_' ∨ (next = '.' ∧ state.pointed) then some 0
    else none
  match digit? with
  | none => .error (strayFault next)
  | some digit =>
    if digit < 5 then .ok (state.mantissa, state.scale)
    else if state.mantissa + 1 < mantissaLimit then .ok (state.mantissa + 1, state.scale)
    else if state.scale = 0 then .error .roundedOver
    else .ok ((state.mantissa + 5) / 10, state.scale - 1)

/-- Mantissa and scale of digits with at most one point, underscores after the first digit left
out. -/
def readMantissa (state : Reading) : List Char → Except Fault (Nat × Nat)
  | [] => if state.started then .ok (state.mantissa, state.scale) else .error .noDigits
  | c :: rest =>
    if state.pointed && greatestScale ≤ state.scale then state.roundedBy c
    else if Digits.isDigit c then
      let mantissa := 10 * state.mantissa + Digits.value c
      if mantissa < mantissaLimit then
        readMantissa
          { state with
            mantissa
            scale := if state.pointed then state.scale + 1 else state.scale
            started := true }
          rest
      else if state.pointed then state.roundedBy c
      else .error .tooManyDigits
    else if c = '.' ∧ !state.pointed then readMantissa { state with pointed := true } rest
    else if c = '_' ∧ state.started then readMantissa state rest
    else .error (strayFault c)

def shifted (negative : Bool) (mantissa scale : Nat) (places : Int) : Except Fault Decimal :=
  let scale := (scale : Int) - places
  let parts :=
    if 0 ≤ scale then (mantissa, scale.toNat) else (mantissa * tenTo (-scale).toNat, 0)
  match ofParts? (negative && parts.1 != 0) parts.1 parts.2 with
  | some d => .ok d
  | none => .error .exponent

def readPlaces? : List Char → Option Int
  | '-' :: digits => (Digits.toNat? digits).map fun n => -(n : Int)
  | '+' :: digits => (Digits.toNat? digits).map Int.ofNat
  | digits => (Digits.toNat? digits).map Int.ofNat

def readUnsigned (negative : Bool) (chars : List Char) : Except Fault Decimal :=
  let body := chars.takeWhile fun c => c ≠ 'e' ∧ c ≠ 'E'
  match readMantissa ⟨0, 0, false, false⟩ body with
  | .error fault => .error fault
  | .ok (mantissa, scale) =>
    match chars.drop body.length with
    | [] => shifted negative mantissa scale 0
    | _ :: tail =>
      match readPlaces? tail with
      | none => .error .exponent
      | some places =>
        if places.natAbs ≤ 100 then shifted negative mantissa scale places else .error .exponent

def read : List Char → Except Fault Decimal
  | [] => .error .empty
  | '-' :: rest => readUnsigned true rest
  | '+' :: rest => readUnsigned false rest
  | chars => readUnsigned false chars

/-! ## From floating point -/

/-- `mantissa * 2 ^ powerOfTwo * 10 ^ powerOfTen` with a negative power of two, which is used up by
halving even mantissas and by trading a half for five tenths. A mantissa without room for that is
halved and loses its last bit. -/
def clearHalves : Nat → Nat → Int → Nat × Int
  | 0, mantissa, powerOfTen => (mantissa, powerOfTen)
  | halves + 1, mantissa, powerOfTen =>
    if mantissa % 2 = 0 then clearHalves halves (mantissa / 2) (powerOfTen + 1)
    else if mantissa * 5 < mantissaLimit then clearHalves halves (mantissa * 5) powerOfTen
    else clearHalves halves (mantissa / 2) (powerOfTen + 1)

def clearDoubles : Nat → Nat → Int → Nat × Int
  | 0, mantissa, powerOfTen => (mantissa, powerOfTen)
  | doubles + 1, mantissa, powerOfTen =>
    if mantissa < mantissaLimit / 2 then clearDoubles doubles (mantissa * 2) (powerOfTen - 1)
    else clearDoubles doubles (mantissa / 5) powerOfTen

/-- The last digit dropped, halves rounded up. -/
def dropDigit (mantissa : Nat) : Nat :=
  mantissa / 10 + if 5 ≤ mantissa % 10 then 1 else 0

/-- Drops digits until the scale fits; nothing left means zero. -/
def fitScale : Nat → Nat → Nat → Nat × Nat
  | 0, mantissa, scale => (mantissa, scale)
  | surplus + 1, mantissa, scale =>
    if mantissa / 10 = 0 then (0, 0) else fitScale surplus (dropDigit mantissa) (scale - 1)

/-- Drops digits behind the point while the mantissa has more bits than the number's own. -/
def fitPrecision (limit : Nat) : Nat → Nat → Nat × Nat
  | mantissa, 0 => (mantissa, 0)
  | mantissa, scale + 1 =>
    if limit ≤ mantissa then fitPrecision limit (dropDigit mantissa) scale else (mantissa, scale + 1)

/-- A mantissa from here on has more digits than the format warrants: about fifteen of the double
and seven of the single format. The fraction's bits are counted in whole groups of four. -/
def precisionLimit (format : FloatFormat) : Nat :=
  twoTo (4 * ((format.fractionBits + 3) / 4))

/-- Whole numbers are kept exactly, fractions to the precision of the format. -/
def ofFloating? {format : FloatFormat} (x : Floating format) : Option Decimal :=
  match x.view with
  | .notANumber => none
  | .infinite _ => none
  | .finite negative 0 _ => ofParts? negative 0 0
  | .finite negative significand exponent =>
    let cleared :=
      if exponent < 0 then clearHalves exponent.natAbs significand exponent
      else clearDoubles exponent.toNat significand exponent
    if 0 < cleared.2 then ofParts? negative (cleared.1 * tenTo cleared.2.toNat) 0
    else
      let fitted := fitScale (cleared.2.natAbs - greatestScale) cleared.1 cleared.2.natAbs
      let precise := fitPrecision (precisionLimit format) fitted.1 fitted.2
      let stripped := stripZeros precise.1 precise.2
      ofParts? negative stripped.1 stripped.2

end Decimal

end Unflatten
