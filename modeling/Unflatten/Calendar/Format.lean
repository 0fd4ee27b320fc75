import Unflatten.Calendar.Time

/-!
# Reading dates and times

A format is a list of items, read from left to right; the text has to end with the last item. A
number may be written with fewer digits than its width and may follow blanks.
-/

set_option autoImplicit false

namespace Unflatten.Calendar

inductive Item where
  | year
  | month
  | day
  | hour
  | minute
  | second
  | fraction
  | literal (c : Char)
  | blanks
  deriving DecidableEq, Repr

/-- What the items of a format have given so far. -/
structure Fields where
  year : Option Int := none
  month : Option Nat := none
  day : Option Nat := none
  hour : Option Nat := none
  minute : Option Nat := none
  second : Option Nat := none
  nanosecond : Option Nat := none

/-- At least one and at most `width` digits. -/
def readNumber? (width : Nat) (chars : List Char) : Option (Nat × List Char) :=
  let digits := (chars.take width).takeWhile Digits.isDigit
  if digits.isEmpty then none else some (Digits.toNat digits, chars.drop digits.length)

/-- A year with a sign may have any number of digits, one without has at most four. -/
def readYear? : List Char → Option (Int × List Char)
  | '-' :: rest =>
    (readNumber? rest.length rest).map fun (number, rest) => (-(number : Int), rest)
  | '+' :: rest => (readNumber? rest.length rest).map fun (number, rest) => ((number : Int), rest)
  | chars => (readNumber? 4 chars).map fun (number, rest) => ((number : Int), rest)

/-- A point and the digits behind it, as nanoseconds; digits after the ninth are passed over. -/
def readFraction? : List Char → Option (Option Nat × List Char)
  | '.' :: rest =>
    let digits := rest.takeWhile Digits.isDigit
    if digits.isEmpty then none
    else
      let kept := digits.take 9
      some (some (Digits.toNat kept * tenTo (9 - kept.length)), rest.drop digits.length)
  | chars => some (none, chars)

def readItem? (fields : Fields) (chars : List Char) : Item → Option (Fields × List Char)
  | .year =>
    (readYear? (Text.trimStart chars)).map fun (number, rest) =>
      ({ fields with year := some number }, rest)
  | .month =>
    (readNumber? 2 (Text.trimStart chars)).map fun (number, rest) =>
      ({ fields with month := some number }, rest)
  | .day =>
    (readNumber? 2 (Text.trimStart chars)).map fun (number, rest) =>
      ({ fields with day := some number }, rest)
  | .hour =>
    (readNumber? 2 (Text.trimStart chars)).map fun (number, rest) =>
      ({ fields with hour := some number }, rest)
  | .minute =>
    (readNumber? 2 (Text.trimStart chars)).map fun (number, rest) =>
      ({ fields with minute := some number }, rest)
  | .second =>
    (readNumber? 2 (Text.trimStart chars)).map fun (number, rest) =>
      ({ fields with second := some number }, rest)
  | .fraction =>
    (readFraction? chars).map fun (nanosecond, rest) => ({ fields with nanosecond }, rest)
  | .literal c =>
    match chars with
    | head :: rest => if head = c then some (fields, rest) else none
    | [] => none
  | .blanks => some (fields, Text.trimStart chars)

def readItems? : Fields → List Item → List Char → Option Fields
  | fields, [], chars => if chars.isEmpty then some fields else none
  | fields, item :: items, chars =>
    match readItem? fields chars item with
    | some (fields, rest) => readItems? fields items rest
    | none => none

def Fields.date? (fields : Fields) : Option Date :=
  match fields.year, fields.month, fields.day with
  | some year, some month, some day => Date.ofParts? year month day
  | _, _, _ => none

/-- Seconds may be left out. -/
def Fields.time? (fields : Fields) : Option Time :=
  match fields.hour, fields.minute with
  | some hour, some minute =>
    Time.ofParts? hour minute (fields.second.getD 0) (fields.nanosecond.getD 0)
  | _, _ => none

def Fields.dateTime? (fields : Fields) : Option DateTime :=
  match fields.date?, fields.time? with
  | some date, some time => some ⟨date, time⟩
  | _, _ => none

def yearFirst (mark : Char) : List Item :=
  [.year, .literal mark, .month, .literal mark, .day]

def dayFirst (mark : Char) : List Item :=
  [.day, .literal mark, .month, .literal mark, .year]

def monthFirst (mark : Char) : List Item :=
  [.month, .literal mark, .day, .literal mark, .year]

def minutes : List Item :=
  [.hour, .literal ':', .minute]

def seconds : List Item :=
  minutes ++ [.literal ':', .second]

def dateLayouts : List (List Item) :=
  [yearFirst '-', yearFirst '/', dayFirst '/', monthFirst '/', dayFirst '-']

def dateTimeLayouts : List (List Item) :=
  [ yearFirst '-' ++ .literal 'T' :: seconds ++ [.fraction],
    yearFirst '-' ++ .blanks :: seconds ++ [.fraction],
    yearFirst '-' ++ .literal 'T' :: minutes,
    yearFirst '-' ++ .blanks :: minutes,
    dayFirst '/' ++ .blanks :: seconds,
    monthFirst '/' ++ .blanks :: seconds ]

def timeLayouts : List (List Item) :=
  [seconds ++ [.fraction], minutes]

/-- The first format that the text fits, fields out of range included among the misfits. -/
def readDate? (chars : List Char) : Option Date :=
  dateLayouts.findSome? fun format => (readItems? {} format chars).bind Fields.date?

def readDateTime? (chars : List Char) : Option DateTime :=
  dateTimeLayouts.findSome? fun format => (readItems? {} format chars).bind Fields.dateTime?

def readTime? (chars : List Char) : Option Time :=
  timeLayouts.findSome? fun format => (readItems? {} format chars).bind Fields.time?

end Unflatten.Calendar
