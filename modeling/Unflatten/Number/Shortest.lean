import Unflatten.Number.Floating

/-!
# Shortest decimal text of a floating point number

`shortest` finds the fewest digits that read back as the number, and of these the digits nearest to
it. For each count of digits the two neighbours of the number on that decimal grid are tried. The
layouts place the digits.
-/

set_option autoImplicit false

namespace Unflatten

/-- The number `0.d₁d₂… * 10 ^ point` with digits `d₁d₂…`, of which the last is not zero. -/
structure DecimalForm where
  digits : List Char
  point : Int
  deriving DecidableEq, Repr

namespace DecimalForm

def ofNat (digits : Nat) (count : Nat) (point : Int) : DecimalForm :=
  let written := Digits.ofNat digits
  ⟨(written.reverse.dropWhile (· = '0')).reverse, point + written.length - count⟩

/-- `low / scale`, `middle / scale` and `high / scale` bound the numbers that read back as the
middle one; the bounds belong to them if `closed`. -/
structure Interval where
  low : Nat
  middle : Nat
  high : Nat
  scale : Nat
  closed : Bool

namespace Interval

def holds (interval : Interval) (numerator denominator : Nat) : Bool :=
  let below := interval.low * denominator
  let above := interval.high * denominator
  let here := numerator * interval.scale
  if interval.closed then below ≤ here && here ≤ above else below < here && here < above

/-- Count of decimal places in front of the point; zero or less for numbers below one tenth. -/
def places (interval : Interval) : Int :=
  if interval.scale ≤ interval.middle then (Digits.ofNat (interval.middle / interval.scale)).length
  else
    let zeros := (Digits.ofNat (interval.scale / interval.middle)).length - 1
    if interval.scale ≤ interval.middle * tenTo zeros then 1 - (zeros : Int) else -(zeros : Int)

/-- The neighbour with `count` digits that lies in the interval, the nearer one if both do. -/
def onGrid? (interval : Interval) (count : Nat) : Option DecimalForm :=
  let places := interval.places
  let step := places - count
  let factor := tenTo step.natAbs
  let numerator := if 0 ≤ step then interval.middle else interval.middle * factor
  let denominator := if 0 ≤ step then interval.scale * factor else interval.scale
  let holdsAt := fun digits : Nat =>
    if 0 ≤ step then interval.holds (digits * factor) 1 else interval.holds digits factor
  let lower := numerator / denominator
  let nearest := divideToEven numerator denominator
  let other := if nearest = lower then lower + 1 else lower
  if holdsAt nearest then some (ofNat nearest count places)
  else if holdsAt other then some (ofNat other count places)
  else none

end Interval

/-- The numbers that round to `significand * 2 ^ exponent`. Below a power of two the neighbour is
half as far away as above it. -/
def roundingInterval (format : FloatFormat) (significand : Nat) (exponent : Int) : Interval :=
  let narrow := significand = twoTo format.fractionBits ∧ format.leastExponent < exponent
  let factor := if 2 ≤ exponent then twoTo (exponent - 2).toNat else 1
  let scale := if 2 ≤ exponent then 1 else twoTo (2 - exponent).toNat
  { low := (4 * significand - if narrow then 1 else 2) * factor
    middle := 4 * significand * factor
    high := (4 * significand + 2) * factor
    scale
    closed := significand % 2 = 0 }

/-- Seventeen digits tell all numbers of either format apart. -/
def shortest (format : FloatFormat) (significand : Nat) (exponent : Int) : DecimalForm :=
  let interval := roundingInterval format significand exponent
  ((List.range 17).findSome? fun count => interval.onGrid? (count + 1)).getD ⟨[], 0⟩

def positional (form : DecimalForm) : List Char × List Char :=
  if form.point ≤ 0 then ([], List.replicate (-form.point).toNat '0' ++ form.digits)
  else
    let whole := form.digits.take form.point.toNat
    (whole ++ List.replicate (form.point.toNat - whole.length) '0',
      form.digits.drop form.point.toNat)

def wholeDigits (digits : List Char) : List Char :=
  if digits.isEmpty then ['0'] else digits

def plain (form : DecimalForm) : List Char :=
  let parts := form.positional
  wholeDigits parts.1 ++ if parts.2.isEmpty then [] else '.' :: parts.2

def pointed (form : DecimalForm) : List Char :=
  let parts := form.positional
  wholeDigits parts.1 ++ '.' :: wholeDigits parts.2

def exponential (form : DecimalForm) (exponentChars : Int → List Char) : List Char :=
  let tail := form.digits.drop 1
  form.digits.take 1 ++ (if tail.isEmpty then [] else '.' :: tail)
    ++ 'e' :: exponentChars (form.point - 1)

/-- The exponent always has a sign. -/
def scientific (form : DecimalForm) : List Char :=
  form.exponential fun exponent =>
    (if exponent < 0 then '-' else '+') :: Digits.ofNat exponent.natAbs

end DecimalForm

namespace Floating

variable {format : FloatFormat}

def signed (negative : Bool) (chars : List Char) : String :=
  String.ofList (if negative then '-' :: chars else chars)

def plainText (x : Floating format) : String :=
  match x.view with
  | .notANumber => "NaN"
  | .infinite negative => signed negative ['i', 'n', 'f']
  | .finite negative 0 _ => signed negative ['0']
  | .finite negative significand exponent =>
    signed negative (DecimalForm.shortest format significand exponent).plain

/-- With an exponent from `10 ^ 16` on and below `10 ^ -4`, else with at least one digit behind the
point. -/
def debugText (x : Floating format) : String :=
  match x.view with
  | .notANumber => "NaN"
  | .infinite negative => signed negative ['i', 'n', 'f']
  | .finite negative 0 _ => signed negative ['0', '.', '0']
  | .finite negative significand exponent =>
    let form := DecimalForm.shortest format significand exponent
    if -4 < form.point ∧ form.point ≤ 16 then signed negative form.pointed
    else signed negative (form.exponential Digits.ofInt)

/-- Scientific from `10 ^ upper` on and below `10 ^ lower`. -/
structure JsonLayout where
  lower : Int
  upper : Int

def jsonText? (layout : JsonLayout) (x : Floating format) : Option String :=
  match x.view with
  | .notANumber => none
  | .infinite _ => none
  | .finite negative 0 _ => some (signed negative ['0', '.', '0'])
  | .finite negative significand exponent =>
    let form := DecimalForm.shortest format significand exponent
    if layout.lower < form.point ∧ form.point ≤ layout.upper then
      some (signed negative form.pointed)
    else some (signed negative form.scientific)

/-- Digits with an optional point and an optional exponent: the digits, and the power of ten that
they are multiplied by. -/
def readDecimal? (chars : List Char) : Option (Nat × Int) :=
  let whole := chars.takeWhile Digits.isDigit
  let rest := chars.drop whole.length
  let fraction :=
    match rest with
    | '.' :: tail => tail.takeWhile Digits.isDigit
    | _ => []
  let rest :=
    match rest with
    | '.' :: tail => tail.drop fraction.length
    | _ => rest
  if whole.isEmpty && fraction.isEmpty then none
  else
    let digits := Digits.toNat (whole ++ fraction)
    let shift := -(fraction.length : Int)
    match rest with
    | [] => some (digits, shift)
    | c :: tail =>
      if c = 'e' ∨ c = 'E' then
        match tail with
        | '-' :: places => (Digits.toNat? places).map fun n => (digits, shift - n)
        | '+' :: places => (Digits.toNat? places).map fun n => (digits, shift + n)
        | places => (Digits.toNat? places).map fun n => (digits, shift + n)
      else none

def readUnsigned? (format : FloatFormat) (negative : Bool) (chars : List Char) :
    Option (Floating format) :=
  let word := chars.map Char.toLower
  if word = ['n', 'a', 'n'] then some (notANumber format)
  else if word = ['i', 'n', 'f'] ∨ word = ['i', 'n', 'f', 'i', 'n', 'i', 't', 'y'] then
    some (infinity format negative)
  else (readDecimal? chars).map fun (digits, exponent) => ofDecimal format negative digits exponent

def read? (format : FloatFormat) : List Char → Option (Floating format)
  | '+' :: rest => readUnsigned? format false rest
  | '-' :: rest => readUnsigned? format true rest
  | chars => readUnsigned? format false chars

end Floating

end Unflatten
