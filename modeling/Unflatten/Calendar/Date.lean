import Unflatten.Number.Digits

/-!
# Days of the calendar

Dates of the Gregorian calendar, extended to both sides, with the year zero before the year one.
-/

set_option autoImplicit false

namespace Unflatten

namespace Calendar

def leastYear : Int := -262143

def greatestYear : Int := 262142

def isLeap (year : Int) : Bool :=
  year % 4 = 0 && (year % 100 ≠ 0 || year % 400 = 0)

def daysIn (year : Int) : Nat → Nat
  | 2 => if isLeap year then 29 else 28
  | 4 | 6 | 9 | 11 => 30
  | _ => 31

/-- Whether there is such a day. -/
def IsDay (year : Int) (month day : Nat) : Prop :=
  (leastYear ≤ year ∧ year ≤ greatestYear) ∧ (1 ≤ month ∧ month ≤ 12) ∧
    (1 ≤ day ∧ day ≤ daysIn year month)

instance (year : Int) (month day : Nat) : Decidable (IsDay year month day) := by
  unfold IsDay
  infer_instance

end Calendar

structure Date where
  year : Int
  month : Nat
  day : Nat
  isDay : Calendar.IsDay year month day
  deriving DecidableEq

namespace Date

def ofParts? (year : Int) (month day : Nat) : Option Date :=
  if h : Calendar.IsDay year month day then some ⟨year, month, day, h⟩ else none

/-- The first day of 1970. -/
def epoch : Date :=
  ⟨1970, 1, 1, by decide⟩

instance : Inhabited Date := ⟨epoch⟩

/-- Days before the first of January of `year`, counted from the year one. -/
def daysBeforeYear (year : Int) : Int :=
  let past := year - 1
  365 * past + past / 4 - past / 100 + past / 400

def daysBeforeMonth (year : Int) (month : Nat) : Nat :=
  (List.range (month - 1)).foldl (fun days earlier => days + Calendar.daysIn year (earlier + 1)) 0

def dayNumber (date : Date) : Int :=
  daysBeforeYear date.year + daysBeforeMonth date.year date.month + date.day

def daysUntil (start finish : Date) : Int :=
  finish.dayNumber - start.dayNumber

/-- Four digits, with a sign for years before zero and of five digits. -/
def yearChars (year : Int) : List Char :=
  if year < 0 then '-' :: Digits.padded 4 year.natAbs
  else if 10000 ≤ year then '+' :: Digits.ofNat year.natAbs
  else Digits.padded 4 year.natAbs

def chars (date : Date) : List Char :=
  yearChars date.year ++ '-' :: Digits.padded 2 date.month ++ '-' :: Digits.padded 2 date.day

def text (date : Date) : String :=
  String.ofList date.chars

end Date

end Unflatten
