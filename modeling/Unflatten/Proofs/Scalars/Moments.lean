import Unflatten.Calendar.Format
import Unflatten.Proofs.Scalars.Trimming

/-!
# Dates and times as text

A date, a time of whole seconds and the two together are written so that the first layout the text
fits gives them back. A leap second is among them if it ends its minute. A moment is tried against the layout with a `T` first, which refuses the
blank between its date and its time.
-/

set_option autoImplicit false

namespace Unflatten

namespace Time

/-- A whole second that is no leap second, or the leap second behind the last one of a minute. -/
def IsTold (time : Time) : Prop :=
  time.nanosecond = 0 ∨ time.second = 59 ∧ time.nanosecond = 1000000000

theorem shownSecond_le (time : Time) : time.shownSecond ≤ 60 := by
  have second := time.second_lt
  have nanosecond := time.nanosecond_lt
  unfold shownSecond
  omega

end Time

namespace Calendar

variable {rest : List Char} {fields : Fields}

/-! ## Numbers -/

theorem readNumber?_digits {width : Nat} {digits : List Char} (nonempty : digits ≠ [])
    (each : ∀ c ∈ digits, Digits.isDigit c = true) (within : digits.length ≤ width)
    (stops : digits.length = width ∨ ∀ c ∈ rest.head?, Digits.isDigit c = false) :
    readNumber? width (digits ++ rest) = some (Digits.toNat digits, rest) := by
  have behind : (rest.take (width - digits.length)).takeWhile Digits.isDigit = [] := by
    rcases stops with full | ends
    · rw [full, Nat.sub_self, List.take_zero, List.takeWhile_nil]
    · cases rest with
      | nil => simp
      | cons c more =>
        have noDigit := ends c rfl
        cases width - digits.length with
        | zero => rfl
        | succ room => rw [List.take_succ_cons, List.takeWhile_cons, noDigit, if_neg (by simp)]
  have read : ((digits ++ rest).take width).takeWhile Digits.isDigit = digits := by
    rw [List.take_append, List.take_of_length_le within, List.takeWhile_append_of_pos each, behind,
      List.append_nil]
  have isThere : digits.isEmpty = false := by simpa using nonempty
  simp [readNumber?, read, isThere]

theorem trimStart_solid {c : Char} (solid : Text.isBlank c = false) (rest : List Char) :
    Text.trimStart (c :: rest) = c :: rest := by
  rw [Text.trimStart, List.dropWhile_cons, solid, if_neg (by simp)]

theorem trimStart_digits {digits : List Char} (nonempty : digits ≠ [])
    (each : ∀ c ∈ digits, Digits.isDigit c = true) (rest : List Char) :
    Text.trimStart (digits ++ rest) = digits ++ rest := by
  cases digits with
  | nil => exact absurd rfl nonempty
  | cons c more => exact trimStart_solid (Digits.isBlank_digit (each c (by simp))) _

theorem readNumber?_two {n : Nat} (fits : n < 100) (rest : List Char) :
    readNumber? 2 (Text.trimStart (Digits.padded 2 n ++ rest)) = some (n, rest) := by
  have each : ∀ c ∈ Digits.padded 2 n, Digits.isDigit c = true :=
    fun _ => Digits.isDigit_of_mem_padded
  have two : (Digits.padded 2 n).length = 2 := Digits.length_padded (by decide) fits
  rw [trimStart_digits (Digits.padded_ne_nil 2 n) each,
    readNumber?_digits (Digits.padded_ne_nil 2 n) each (by omega) (Or.inl two),
    Digits.toNat_padded]

theorem readYear?_bare {digits : List Char} (nonempty : digits ≠ [])
    (each : ∀ c ∈ digits, Digits.isDigit c = true) (rest : List Char) :
    readYear? (digits ++ rest) =
      (readNumber? 4 (digits ++ rest)).map fun (number, rest) => ((number : Int), rest) := by
  cases digits with
  | nil => exact absurd rfl nonempty
  | cons c more =>
    have digit := each c (by simp)
    rw [List.cons_append, readYear?]
    · rintro others same
      cases same
      cases digit
    · rintro others same
      cases same
      cases digit

theorem readYear?_yearChars (year : Int) (rest : List Char) :
    readYear? (Text.trimStart (Date.yearChars year ++ '-' :: rest)) =
      some (year, '-' :: rest) := by
  have stops : ∀ c ∈ ('-' :: rest).head?, Digits.isDigit c = false := by
    rintro c same
    cases same
    rfl
  unfold Date.yearChars
  by_cases negative : year < 0
  · have each : ∀ c ∈ Digits.padded 4 year.natAbs, Digits.isDigit c = true :=
      fun _ => Digits.isDigit_of_mem_padded
    rw [if_pos negative, List.cons_append, trimStart_solid (by rfl), readYear?,
      readNumber?_digits (Digits.padded_ne_nil _ _) each (by simp) (Or.inr stops),
      Digits.toNat_padded]
    simp only [Option.map_some, Option.some.injEq, Prod.mk.injEq, and_true]
    omega
  · rw [if_neg negative]
    by_cases long : 10000 ≤ year
    · have each : ∀ c ∈ Digits.ofNat year.natAbs, Digits.isDigit c = true :=
        fun _ => Digits.isDigit_of_mem_ofNat
      rw [if_pos long, List.cons_append, trimStart_solid (by rfl), readYear?,
        readNumber?_digits (Digits.ofNat_ne_nil _) each (by simp) (Or.inr stops),
        Digits.toNat_ofNat]
      simp only [Option.map_some, Option.some.injEq, Prod.mk.injEq, and_true]
      omega
    · have each : ∀ c ∈ Digits.padded 4 year.natAbs, Digits.isDigit c = true :=
        fun _ => Digits.isDigit_of_mem_padded
      have fits : year.natAbs < tenTo 4 := by
        have limit : tenTo 4 = 10000 := rfl
        omega
      have four := Digits.length_padded (by decide : 0 < 4) fits
      have some := Digits.padded_ne_nil 4 year.natAbs
      rw [if_neg long, trimStart_digits some each, readYear?_bare some each,
        readNumber?_digits some each (by omega) (Or.inl four), Digits.toNat_padded]
      simp only [Option.map_some, Option.some.injEq, Prod.mk.injEq, and_true]
      omega

/-! ## Items -/

theorem readItems?_cons {later : Fields} {item : Item} {chars : List Char}
    (step : readItem? fields chars item = some (later, rest)) (items : List Item) :
    readItems? fields (item :: items) chars = readItems? later items rest := by
  rw [readItems?, step]

theorem readItems?_literal (c : Char) (items : List Item) (rest : List Char) :
    readItems? fields (.literal c :: items) (c :: rest) = readItems? fields items rest :=
  readItems?_cons (by simp [readItem?]) items

theorem readItems?_two {item : Item} {n : Nat} (fits : n < 100) (set : Nat → Fields)
    (reads : ∀ chars, readItem? fields chars item =
      (readNumber? 2 (Text.trimStart chars)).map fun (number, rest) => (set number, rest))
    (items : List Item) (rest : List Char) :
    readItems? fields (item :: items) (Digits.padded 2 n ++ rest) =
      readItems? (set n) items rest :=
  readItems?_cons (by rw [reads, readNumber?_two fits, Option.map_some]) items

theorem readItems?_year (year : Int) (items : List Item) (rest : List Char) :
    readItems? fields (.year :: items) (Date.yearChars year ++ '-' :: rest) =
      readItems? { fields with year := some year } items ('-' :: rest) :=
  readItems?_cons (by rw [readItem?, readYear?_yearChars, Option.map_some]) items

/-! ## Layouts -/

theorem daysIn_le (year : Int) (month : Nat) : daysIn year month ≤ 31 := by
  unfold daysIn
  split
  · split
    · omega
    · omega
  · omega
  · omega
  · omega
  · omega
  · omega

theorem readItems?_date (date : Date) (items : List Item) (rest : List Char) :
    readItems? fields (yearFirst '-' ++ items) (date.chars ++ rest) =
      readItems?
        { fields with year := some date.year, month := some date.month, day := some date.day }
        items rest := by
  obtain ⟨-, ⟨-, lastMonth⟩, -, lastDay⟩ := date.isDay
  have longest := daysIn_le date.year date.month
  have shape : date.chars ++ rest = Date.yearChars date.year ++ '-' ::
      (Digits.padded 2 date.month ++ '-' :: (Digits.padded 2 date.day ++ rest)) := by
    simp [Date.chars]
  have layout : yearFirst '-' ++ items =
      .year :: .literal '-' :: .month :: .literal '-' :: .day :: items := rfl
  rw [shape, layout, readItems?_year, readItems?_literal,
    readItems?_two (by omega) (fun n => { fields with year := some date.year, month := some n })
      (fun _ => rfl),
    readItems?_literal,
    readItems?_two (by omega)
      (fun n => { fields with year := some date.year, month := some date.month, day := some n })
      (fun _ => rfl)]

theorem readItems?_time (time : Time) (items : List Item) (rest : List Char) :
    readItems? fields (seconds ++ items) (time.chars ++ rest) =
      readItems?
        { fields with
          hour := some time.hour
          minute := some time.minute
          second := some time.shownSecond }
        items rest := by
  have hour := time.hour_lt
  have minute := time.minute_lt
  have second := time.shownSecond_le
  have shape : time.chars ++ rest = Digits.padded 2 time.hour ++ ':' ::
      (Digits.padded 2 time.minute ++ ':' :: (Digits.padded 2 time.shownSecond ++ rest)) := by
    simp [Time.chars]
  have layout : seconds ++ items =
      .hour :: .literal ':' :: .minute :: .literal ':' :: .second :: items := rfl
  rw [shape, layout,
    readItems?_two (by omega) (fun n => { fields with hour := some n }) (fun _ => rfl),
    readItems?_literal,
    readItems?_two (by omega)
      (fun n => { fields with hour := some time.hour, minute := some n }) (fun _ => rfl),
    readItems?_literal,
    readItems?_two (by omega)
      (fun n => { fields with
        hour := some time.hour
        minute := some time.minute
        second := some n })
      (fun _ => rfl)]

theorem readItems?_noFraction :
    readItems? fields [.fraction] [] = some { fields with nanosecond := none } :=
  rfl

/-! ## Reading what is written -/

theorem ofParts?_date (date : Date) : Date.ofParts? date.year date.month date.day = some date :=
  dif_pos date.isDay

theorem ofParts?_time {time : Time} (told : time.IsTold) :
    Time.ofParts? time.hour time.minute time.shownSecond 0 = some time := by
  rcases told with whole | ⟨last, leap⟩
  · have shown : time.shownSecond = time.second := by
      rw [Time.shownSecond, whole, Nat.zero_div, Nat.add_zero]
    have parts : time.hour < 24 ∧ time.minute < 60 ∧ time.second ≤ 60 ∧ 0 < 1000000000 :=
      ⟨time.hour_lt, time.minute_lt, Nat.le_of_lt time.second_lt, by decide⟩
    rw [shown, Time.ofParts?, dif_pos parts, dif_neg (Nat.ne_of_lt time.second_lt)]
    cases time
    cases whole
    rfl
  · have shown : time.shownSecond = 60 := by
      rw [Time.shownSecond, last, leap]
    have parts : time.hour < 24 ∧ time.minute < 60 ∧ 60 ≤ 60 ∧ 0 < 1000000000 :=
      ⟨time.hour_lt, time.minute_lt, Nat.le_refl 60, by decide⟩
    rw [shown, Time.ofParts?, dif_pos parts, dif_pos rfl]
    cases time
    cases last
    cases leap
    rfl

theorem readDate?_chars (date : Date) : readDate? date.chars = some date := by
  have read := @readItems?_date {} date [] []
  rw [List.append_nil, List.append_nil, readItems?] at read
  simp only [readDate?, dateLayouts, List.findSome?_cons, read]
  simp [Fields.date?, ofParts?_date]

theorem readTime?_chars {time : Time} (told : time.IsTold) :
    readTime? time.chars = some time := by
  have read := @readItems?_time {} time [.fraction] []
  rw [List.append_nil, readItems?_noFraction] at read
  simp only [readTime?, timeLayouts, List.findSome?_cons, read]
  simp [Fields.time?, ofParts?_time told]

theorem readDateTime?_chars {moment : DateTime} (told : moment.time.IsTold) :
    readDateTime? (moment.date.chars ++ ' ' :: moment.time.chars) = some moment := by
  have refused : readItems? {} (yearFirst '-' ++ .literal 'T' :: seconds ++ [.fraction])
      (moment.date.chars ++ ' ' :: moment.time.chars) = none := by
    rw [List.append_assoc, readItems?_date]
    rfl
  have blank : Text.trimStart (' ' :: moment.time.chars) = moment.time.chars := by
    have hour := trimStart_digits (Digits.padded_ne_nil 2 moment.time.hour)
      (fun _ => Digits.isDigit_of_mem_padded)
      (':' :: Digits.padded 2 moment.time.minute ++ ':' :: Digits.padded 2 moment.time.shownSecond)
    have shape : Text.trimStart (' ' :: moment.time.chars) = Text.trimStart moment.time.chars := rfl
    rw [shape, Time.chars, List.append_assoc]
    exact hour
  have read : readItems? {} (yearFirst '-' ++ .blanks :: seconds ++ [.fraction])
      (moment.date.chars ++ ' ' :: moment.time.chars) = some
        { year := some moment.date.year
          month := some moment.date.month
          day := some moment.date.day
          hour := some moment.time.hour
          minute := some moment.time.minute
          second := some moment.time.shownSecond
          nanosecond := none } := by
    have time := @readItems?_time
      { year := some moment.date.year
        month := some moment.date.month
        day := some moment.date.day } moment.time [.fraction] []
    rw [List.append_nil, readItems?_noFraction] at time
    rw [List.append_assoc, readItems?_date, List.cons_append,
      readItems?_cons (show readItem? _ _ .blanks = some (_, moment.time.chars) by
        rw [readItem?, blank]), time]
  simp only [readDateTime?, dateTimeLayouts, List.findSome?_cons, refused, read]
  simp [Fields.dateTime?, Fields.date?, Fields.time?, ofParts?_date, ofParts?_time told]

/-! ## Blanks -/

theorem date_solid {date : Date} {c : Char} (member : c ∈ date.chars) : Text.isBlank c = false := by
  have digits : ∀ width n, c ∈ Digits.padded width n → Text.isBlank c = false :=
    fun _ _ inside => Digits.isBlank_digit (Digits.isDigit_of_mem_padded inside)
  have year : c ∈ Date.yearChars date.year → Text.isBlank c = false := by
    intro inside
    unfold Date.yearChars at inside
    split at inside
    · rcases List.mem_cons.mp inside with rfl | digit
      · rfl
      · exact digits _ _ digit
    · split at inside
      · rcases List.mem_cons.mp inside with rfl | digit
        · rfl
        · exact Digits.isBlank_digit (Digits.isDigit_of_mem_ofNat digit)
      · exact digits _ _ inside
  simp only [Date.chars, List.mem_append, List.mem_cons] at member
  rcases member with (inYear | rfl | inMonth) | rfl | inDay
  · exact year inYear
  · rfl
  · exact digits _ _ inMonth
  · rfl
  · exact digits _ _ inDay

theorem time_solid {time : Time} {c : Char} (member : c ∈ time.chars) : Text.isBlank c = false := by
  have digits : ∀ n, c ∈ Digits.padded 2 n → Text.isBlank c = false :=
    fun _ inside => Digits.isBlank_digit (Digits.isDigit_of_mem_padded inside)
  simp only [Time.chars, List.mem_append, List.mem_cons] at member
  rcases member with (inHour | rfl | inMinute) | rfl | inSecond
  · exact digits _ inHour
  · rfl
  · exact digits _ inMinute
  · rfl
  · exact digits _ inSecond

theorem date_nonempty (date : Date) : date.chars ≠ [] := by
  simp [Date.chars]

theorem time_nonempty (time : Time) : time.chars ≠ [] := by
  simp [Time.chars]

end Calendar

end Unflatten
