import Mathlib.Data.List.TakeWhile
import Mathlib.Data.Rat.Floor
import Mathlib.Tactic.Ring
import Unflatten.Number.Decimal
import Unflatten.Proofs.Scalars.Trimming

/-!
# The amount of a decimal

A decimal stands for a rational number. Its integral part is that number cut off toward zero,
normalizing leaves the number alone, and its text reads back as the same number.
-/

set_option autoImplicit false

namespace Unflatten

theorem tenTo_eq (exponent : Nat) : tenTo exponent = 10 ^ exponent :=
  rfl

/-- The integer next to a rational number on the side of zero. -/
def towardZero (amount : ℚ) : ℤ :=
  if 0 ≤ amount then ⌊amount⌋ else ⌈amount⌉

theorem towardZero_intCast (n : ℤ) : towardZero n = n := by
  unfold towardZero
  split
  · exact Int.floor_intCast n
  · exact Int.ceil_intCast n

theorem towardZero_neg (amount : ℚ) : towardZero (-amount) = -towardZero amount := by
  rcases lt_trichotomy amount 0 with below | zero | above
  · rw [towardZero, towardZero, if_pos (by linarith), if_neg (by linarith), Int.floor_neg]
  · simp [towardZero, zero]
  · rw [towardZero, towardZero, if_neg (by linarith), if_pos (by linarith), Int.ceil_neg]

namespace Decimal

/-- The number that a sign, a mantissa and a scale stand for. -/
def amountOf (negative : Bool) (mantissa scale : Nat) : ℚ :=
  let size : ℚ := mantissa / 10 ^ scale
  if negative then -size else size

def amount (d : Decimal) : ℚ :=
  amountOf d.negative d.mantissa d.scale

theorem towardZero_size (mantissa scale : Nat) :
    towardZero ((mantissa : ℚ) / 10 ^ scale) = (mantissa / tenTo scale : Nat) := by
  have floor := Rat.floor_natCast_div_natCast mantissa (10 ^ scale)
  push_cast at floor
  rw [towardZero, if_pos (by positivity), floor, tenTo_eq]
  push_cast
  rfl

theorem truncate_eq (d : Decimal) : d.truncate = towardZero d.amount := by
  unfold truncate amount amountOf
  cases d.negative with
  | true => simp only [if_true, towardZero_neg, towardZero_size]
  | false => simp only [Bool.false_eq_true, if_false, towardZero_size]

theorem amountOf_strip (negative : Bool) (mantissa scale : Nat) :
    amountOf negative (stripZeros mantissa scale).1 (stripZeros mantissa scale).2 =
      amountOf negative mantissa scale := by
  induction scale generalizing mantissa with
  | zero => rfl
  | succ scale ih =>
    unfold stripZeros
    split
    · rename_i tens
      rw [ih]
      obtain ⟨tenth, rfl⟩ := Nat.dvd_of_mod_eq_zero tens
      have same : ((10 * tenth / 10 : Nat) : ℚ) / 10 ^ scale =
          ((10 * tenth : Nat) : ℚ) / 10 ^ (scale + 1) := by
        rw [Nat.mul_div_cancel_left tenth (by decide), pow_succ]
        push_cast
        field_simp
      simp only [amountOf, same]
    · rfl

theorem amount_normalize (d : Decimal) : d.normalize.amount = d.amount := by
  unfold normalize
  split
  · rename_i none
    simp [amount, amountOf, none, zero]
  · exact amountOf_strip d.negative d.mantissa d.scale

/-! ## Reading what is written -/

variable {digits whole fraction rest : List Char}

theorem readMantissa_digits {state : Reading} (each : ∀ c ∈ digits, Digits.isDigit c = true)
    (room : Digits.toNatFrom state.mantissa digits < mantissaLimit)
    (fits : state.pointed = true → state.scale + digits.length ≤ greatestScale)
    (rest : List Char) :
    readMantissa state (digits ++ rest) =
      readMantissa
        { state with
          mantissa := Digits.toNatFrom state.mantissa digits
          scale := if state.pointed then state.scale + digits.length else state.scale
          started := state.started || !digits.isEmpty }
        rest := by
  induction digits generalizing state with
  | nil => simp [Digits.toNatFrom]
  | cons c more ih =>
    have next : Digits.toNatFrom state.mantissa (c :: more) =
        Digits.toNatFrom (10 * state.mantissa + Digits.value c) more := rfl
    rw [next] at room
    have inside : 10 * state.mantissa + Digits.value c < mantissaLimit :=
      Nat.lt_of_le_of_lt (Digits.le_toNatFrom _ more) room
    have notFull : (state.pointed && decide (greatestScale ≤ state.scale)) = false := by
      cases pointed : state.pointed with
      | false => rfl
      | true =>
        have bound := fits pointed
        simp only [List.length_cons] at bound
        simp only [Bool.true_and, decide_eq_false_iff_not]
        omega
    rw [List.cons_append, readMantissa, notFull, if_neg (by simp), if_pos (each c (by simp)),
      if_pos inside, ih (fun d member => each d (by simp [member])) room ?_, next]
    · cases pointed : state.pointed with
      | false => simp
      | true => simp [Nat.add_assoc, Nat.add_comm 1]
    · intro pointed
      have bound := fits pointed
      simp only [List.length_cons] at bound
      show (if state.pointed = true then state.scale + 1 else state.scale) + more.length ≤ _
      rw [if_pos pointed]
      omega

theorem readMantissa_whole (each : ∀ c ∈ digits, Digits.isDigit c = true) (nonempty : digits ≠ [])
    (room : Digits.toNat digits < mantissaLimit) :
    readMantissa ⟨0, 0, false, false⟩ digits = .ok (Digits.toNat digits, 0) := by
  have read := @readMantissa_digits digits ⟨0, 0, false, false⟩ each room (by simp) []
  have started : (false || !digits.isEmpty) = true := by simpa using nonempty
  rw [List.append_nil] at read
  rw [read, readMantissa, started]
  rfl

theorem readMantissa_pointed (eachWhole : ∀ c ∈ whole, Digits.isDigit c = true)
    (eachFraction : ∀ c ∈ fraction, Digits.isDigit c = true) (nonempty : whole ≠ [])
    (room : Digits.toNat (whole ++ fraction) < mantissaLimit)
    (fits : fraction.length ≤ greatestScale) :
    readMantissa ⟨0, 0, false, false⟩ (whole ++ '.' :: fraction) =
      .ok (Digits.toNat (whole ++ fraction), fraction.length) := by
  have total : Digits.toNat (whole ++ fraction) =
      Digits.toNatFrom (Digits.toNat whole) fraction := Digits.toNatFrom_append 0 whole fraction
  rw [total] at room ⊢
  have wholeRoom := Nat.lt_of_le_of_lt (Digits.le_toNatFrom _ fraction) room
  have read := @readMantissa_digits whole ⟨0, 0, false, false⟩ eachWhole wholeRoom (by simp)
    ('.' :: fraction)
  have started : (false || !whole.isEmpty) = true := by simpa using nonempty
  rw [started] at read
  have behind := @readMantissa_digits fraction ⟨Digits.toNat whole, 0, true, true⟩ eachFraction room
    (by simpa using fits) []
  rw [List.append_nil] at behind
  have point : readMantissa ⟨Digits.toNat whole, 0, false, true⟩ ('.' :: fraction) =
      readMantissa ⟨Digits.toNat whole, 0, true, true⟩ fraction := by
    rw [readMantissa]
    rfl
  have finish : readMantissa ⟨0, 0, false, false⟩ (whole ++ '.' :: fraction) =
      readMantissa ⟨Digits.toNatFrom (Digits.toNat whole) fraction, 0 + fraction.length, true, true⟩
        [] := (read.trans point).trans behind
  rw [finish, Nat.zero_add, readMantissa]
  rfl

/-- The number that is made of the digits has the same amount; zero loses its sign. -/
theorem shifted_amount {mantissa scale : Nat} (room : mantissa < mantissaLimit)
    (fits : scale ≤ greatestScale) (negative : Bool) :
    ∃ d, shifted negative mantissa scale 0 = .ok d ∧
      d.amount = amountOf negative mantissa scale := by
  refine ⟨⟨negative && mantissa != 0, mantissa, scale, room, fits⟩, ?_, ?_⟩
  · simp [shifted, ofParts?, room, fits]
  · by_cases none : mantissa = 0
    · simp [amount, amountOf, none]
    · simp [amount, amountOf, none]

theorem readUnsigned_plain {chars : List Char} {mantissa scale : Nat}
    (plain : ∀ c ∈ chars, c ≠ 'e' ∧ c ≠ 'E')
    (read : readMantissa ⟨0, 0, false, false⟩ chars = .ok (mantissa, scale)) (negative : Bool) :
    readUnsigned negative chars = shifted negative mantissa scale 0 := by
  have whole : chars.takeWhile (fun c => c ≠ 'e' ∧ c ≠ 'E') = chars :=
    List.takeWhile_eq_self_iff.mpr fun c member => by simpa using plain c member
  simp only [readUnsigned, whole, read, List.drop_length]

/-- What stands behind the sign. -/
def unsignedChars (d : Decimal) : List Char :=
  let digits := Digits.padded (d.scale + 1) d.mantissa
  let whole := digits.take (digits.length - d.scale)
  if d.scale = 0 then whole else whole ++ '.' :: digits.drop whole.length

theorem chars_eq (d : Decimal) :
    d.chars = if d.negative then '-' :: d.unsignedChars else d.unsignedChars :=
  rfl

theorem unsignedChars_cases (d : Decimal) :
    ∃ whole fraction, whole ≠ [] ∧ whole ++ fraction = Digits.padded (d.scale + 1) d.mantissa ∧
      fraction.length = d.scale ∧
      d.unsignedChars = if d.scale = 0 then whole else whole ++ '.' :: fraction := by
  have long := Digits.le_length_padded (d.scale + 1) d.mantissa
  unfold unsignedChars
  generalize Digits.padded (d.scale + 1) d.mantissa = digits at long ⊢
  refine ⟨digits.take (digits.length - d.scale), digits.drop (digits.length - d.scale), ?_,
    List.take_append_drop _ _, ?_, ?_⟩
  · intro empty
    have lengths := congrArg List.length empty
    simp only [List.length_take, List.length_nil] at lengths
    omega
  · rw [List.length_drop]
    omega
  · have width : (digits.take (digits.length - d.scale)).length = digits.length - d.scale := by
      rw [List.length_take]
      omega
    simp only [width]

theorem mem_unsignedChars {d : Decimal} {c : Char} (member : c ∈ d.unsignedChars) :
    c = '.' ∨ Digits.isDigit c = true := by
  obtain ⟨whole, fraction, -, digits, -, same⟩ := d.unsignedChars_cases
  have each : ∀ e ∈ whole ++ fraction, Digits.isDigit e = true := by
    intro e inside
    rw [digits] at inside
    exact Digits.isDigit_of_mem_padded inside
  rw [same] at member
  split at member
  · exact Or.inr (each c (by simp [member]))
  · rcases List.mem_append.mp member with inWhole | behind
    · exact Or.inr (each c (by simp [inWhole]))
    · rcases List.mem_cons.mp behind with point | inFraction
      · exact Or.inl point
      · exact Or.inr (each c (by simp [inFraction]))

theorem ne_of_mem_unsignedChars {d : Decimal} {c other : Char} (member : c ∈ d.unsignedChars)
    (foreign : other ≠ '.' ∧ Digits.isDigit other = false) : c ≠ other := by
  rintro rfl
  rcases mem_unsignedChars member with point | digit
  · exact foreign.1 point
  · rw [foreign.2] at digit
    cases digit

theorem unsignedChars_ne_nil (d : Decimal) : d.unsignedChars ≠ [] := by
  obtain ⟨whole, fraction, nonempty, -, -, same⟩ := d.unsignedChars_cases
  rw [same]
  split
  · exact nonempty
  · simp

theorem chars_ne_nil (d : Decimal) : d.chars ≠ [] := by
  rw [chars_eq]
  split
  · simp
  · exact d.unsignedChars_ne_nil

theorem chars_solid {d : Decimal} {c : Char} (member : c ∈ d.chars) : Text.isBlank c = false := by
  have unsigned : c ∈ d.unsignedChars → Text.isBlank c = false := by
    intro inside
    rcases mem_unsignedChars inside with rfl | digit
    · rfl
    · exact Digits.isBlank_digit digit
  rw [chars_eq] at member
  split at member
  · rcases List.mem_cons.mp member with rfl | inside
    · rfl
    · exact unsigned inside
  · exact unsigned member

theorem readMantissa_unsignedChars (d : Decimal) :
    readMantissa ⟨0, 0, false, false⟩ d.unsignedChars = .ok (d.mantissa, d.scale) := by
  obtain ⟨whole, fraction, nonempty, digits, length, same⟩ := d.unsignedChars_cases
  have each : ∀ c ∈ whole ++ fraction, Digits.isDigit c = true := by
    intro c inside
    rw [digits] at inside
    exact Digits.isDigit_of_mem_padded inside
  have number : Digits.toNat (whole ++ fraction) = d.mantissa := by
    rw [digits, Digits.toNat_padded]
  have room := d.mantissa_lt
  have fits := d.scale_le
  have eachWhole : ∀ c ∈ whole, Digits.isDigit c = true := fun c inside => each c (by simp [inside])
  rw [same]
  by_cases unscaled : d.scale = 0
  · rw [unscaled] at length
    rw [List.eq_nil_of_length_eq_zero length, List.append_nil] at number
    rw [if_pos unscaled, readMantissa_whole eachWhole nonempty (by omega), number, unscaled]
  · rw [if_neg unscaled,
      readMantissa_pointed eachWhole (fun c inside => each c (by simp [inside])) nonempty
        (by omega) (by omega), number, length]

theorem read_unsigned {c : Char} (noMinus : c ≠ '-') (noPlus : c ≠ '+') (rest : List Char) :
    read (c :: rest) = readUnsigned false (c :: rest) := by
  rw [read]
  · simp
  · rintro others same
    exact noMinus (List.cons.inj same).1
  · rintro others same
    exact noPlus (List.cons.inj same).1

theorem read_chars (d : Decimal) : ∃ e, read d.chars = .ok e ∧ e.amount = d.amount := by
  obtain ⟨e, made, amount⟩ := shifted_amount d.mantissa_lt d.scale_le d.negative
  have plain : ∀ c ∈ d.unsignedChars, c ≠ 'e' ∧ c ≠ 'E' := fun c member =>
    ⟨ne_of_mem_unsignedChars member (by decide), ne_of_mem_unsignedChars member (by decide)⟩
  have unsigned := readUnsigned_plain plain d.readMantissa_unsignedChars d.negative
  refine ⟨e, ?_, amount⟩
  rw [← made, ← unsigned, chars_eq]
  cases negative : d.negative with
  | true => rfl
  | false =>
    rw [if_neg (by simp)]
    cases shape : d.unsignedChars with
    | nil => exact absurd shape d.unsignedChars_ne_nil
    | cons c rest =>
      have member : c ∈ d.unsignedChars := by simp [shape]
      exact read_unsigned (ne_of_mem_unsignedChars member (by decide))
        (ne_of_mem_unsignedChars member (by decide)) rest

end Decimal

end Unflatten
