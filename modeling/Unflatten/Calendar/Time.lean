import Unflatten.Calendar.Date

/-!
# Times of day

A time has a precision of nanoseconds. Every second may be followed by a leap second, which is kept
as a fraction of a second or more.
-/

set_option autoImplicit false

namespace Unflatten

structure Time where
  hour : Nat
  minute : Nat
  second : Nat
  nanosecond : Nat
  hour_lt : hour < 24
  minute_lt : minute < 60
  second_lt : second < 60
  nanosecond_lt : nanosecond < 2000000000
  deriving DecidableEq

namespace Time

/-- The second `60` is the leap second behind the last one of the minute. -/
def ofParts? (hour minute second nanosecond : Nat) : Option Time :=
  if h : hour < 24 ∧ minute < 60 ∧ second ≤ 60 ∧ nanosecond < 1000000000 then
    if last : second = 60 then
      some ⟨hour, minute, 59, 1000000000 + nanosecond, h.1, h.2.1, by decide, by omega⟩
    else some ⟨hour, minute, second, nanosecond, h.1, h.2.1, by omega, by omega⟩
  else none

def midnight : Time :=
  ⟨0, 0, 0, 0, by decide, by decide, by decide, by decide⟩

instance : Inhabited Time := ⟨midnight⟩

/-- The number of the second, which for a leap second is the next one. -/
def shownSecond (time : Time) : Nat :=
  time.second + time.nanosecond / 1000000000

def chars (time : Time) : List Char :=
  Digits.padded 2 time.hour ++ ':' :: Digits.padded 2 time.minute
    ++ ':' :: Digits.padded 2 time.shownSecond

/-- Three, six or nine digits, as few as the fraction needs; none for a whole second. -/
def fractionChars (nanosecond : Nat) : List Char :=
  if nanosecond = 0 then []
  else if nanosecond % 1000000 = 0 then '.' :: Digits.padded 3 (nanosecond / 1000000)
  else if nanosecond % 1000 = 0 then '.' :: Digits.padded 6 (nanosecond / 1000)
  else '.' :: Digits.padded 9 nanosecond

def text (time : Time) : String :=
  String.ofList time.chars

def exactText (time : Time) : String :=
  String.ofList (time.chars ++ fractionChars (time.nanosecond % 1000000000))

end Time

structure DateTime where
  date : Date
  time : Time
  deriving DecidableEq, Inhabited

namespace DateTime

def text (moment : DateTime) : String :=
  String.ofList (moment.date.chars ++ ' ' :: moment.time.chars)

def exactText (moment : DateTime) : String :=
  moment.date.text ++ "T" ++ moment.time.exactText

end DateTime

end Unflatten
