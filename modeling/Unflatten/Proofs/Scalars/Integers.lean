import Mathlib.Tactic.Ring
import Unflatten.Number.FixedInt

/-!
# Digits and integers as text

The digits of a number read back as the number, with zeros in front of them or without. Text is read
as an integer of a kind exactly if it is a numeral of the kind: digits behind a sign or without one,
whose number lies in the range of the kind.
-/

set_option autoImplicit false

namespace Unflatten

namespace Digits

theorem isDigit_iff {c : Char} : isDigit c = true ↔ 48 ≤ c.toNat ∧ c.toNat ≤ 57 := by
  rw [isDigit, Bool.and_eq_true, decide_eq_true_eq, decide_eq_true_eq]
  exact Iff.rfl

/-! ## Decimal digits -/

theorem ofNat_ne_nil (n : Nat) : ofNat n ≠ [] :=
  Nat.toDigits_ne_nil

theorem isDigit_of_mem_ofNat {n : Nat} {c : Char} (member : c ∈ ofNat n) : isDigit c = true :=
  Nat.isDigit_of_mem_toDigits (by decide) (by decide) member

theorem toNat_ofNat (n : Nat) : toNat (ofNat n) = n :=
  Nat.ofDigitChars_ten_toDigits

theorem toNatFrom_append (start : Nat) (front back : List Char) :
    toNatFrom start (front ++ back) = toNatFrom (toNatFrom start front) back :=
  List.foldl_append

theorem toNat_zeros (count : Nat) (digits : List Char) :
    toNat (List.replicate count '0' ++ digits) = toNat digits := by
  rw [toNat, toNatFrom_append]
  induction count with
  | zero => rfl
  | succ count ih => exact ih

theorem toNatFrom_eq (start : Nat) (digits : List Char) :
    toNatFrom start digits = start * tenTo digits.length + toNat digits := by
  induction digits generalizing start with
  | nil => simp [toNatFrom, toNat, tenTo_zero]
  | cons c rest ih =>
    have first : ∀ number, toNatFrom number (c :: rest) = toNatFrom (10 * number + value c) rest :=
      fun _ => rfl
    rw [toNat, first, first, ih, ih (10 * 0 + value c), List.length_cons, tenTo_succ]
    ring

theorem le_toNatFrom (start : Nat) (digits : List Char) : start ≤ toNatFrom start digits := by
  rw [toNatFrom_eq]
  have one := tenTo_pos digits.length
  exact Nat.le_trans (Nat.le_mul_of_pos_right start one) (Nat.le_add_right _ _)

/-! ## Digits with zeros in front -/

theorem isDigit_of_mem_padded {width n : Nat} {c : Char} (member : c ∈ padded width n) :
    isDigit c = true := by
  rcases List.mem_append.mp member with zero | digit
  · rw [List.eq_of_mem_replicate zero]
    rfl
  · exact isDigit_of_mem_ofNat digit

theorem padded_ne_nil (width n : Nat) : padded width n ≠ [] := by
  intro empty
  exact ofNat_ne_nil n (List.append_eq_nil_iff.mp empty).2

theorem toNat_padded (width n : Nat) : toNat (padded width n) = n := by
  rw [padded, toNat_zeros, toNat_ofNat]

theorem le_length_padded (width n : Nat) : width ≤ (padded width n).length := by
  simp only [padded, List.length_append, List.length_replicate]
  omega

theorem length_padded {width n : Nat} (some : 0 < width) (fits : n < tenTo width) :
    (padded width n).length = width := by
  have short : (ofNat n).length ≤ width := (Nat.length_toDigits_le_iff (by decide) some).mpr fits
  simp only [padded, List.length_append, List.length_replicate]
  omega

/-! ## Numerals -/

/-- At least one digit, and nothing else. -/
structure IsNumeral (digits : List Char) : Prop where
  nonempty : digits ≠ []
  each : ∀ c ∈ digits, isDigit c = true

theorem isNumeral_ofNat (n : Nat) : IsNumeral (ofNat n) :=
  ⟨ofNat_ne_nil n, fun _ => isDigit_of_mem_ofNat⟩

end Digits

namespace FixedInt

variable {kind : IntKind} {chars digits : List Char} {n : Int}

/-- The number that digits stand for behind the sign. -/
def signed (negative : Bool) (number : Nat) : Int :=
  if negative then -(number : Int) else number

/-- A text that writes an integer of the kind, and the integer. -/
inductive Numeral (kind : IntKind) : List Char → Int → Prop where
  | bare {digits : List Char} (numeral : Digits.IsNumeral digits) :
      Numeral kind digits (Digits.toNat digits)
  | plus {digits : List Char} (numeral : Digits.IsNumeral digits) :
      Numeral kind ('+' :: digits) (Digits.toNat digits)
  | minus {digits : List Char} (isSigned : kind.isSigned = true)
      (numeral : Digits.IsNumeral digits) :
      Numeral kind ('-' :: digits) (-(Digits.toNat digits : Int))

theorem Numeral.ne_nil (numeral : Numeral kind chars n) : chars ≠ [] := by
  cases numeral with
  | bare digits => exact digits.nonempty
  | plus digits => simp
  | minus isSigned digits => simp

/-! ## Reading digits -/

theorem withDigit_signed (negative : Bool) (number : Nat) (c : Char) :
    withDigit negative (signed negative number) c =
      signed negative (10 * number + Digits.value c) := by
  cases negative with
  | true =>
    simp only [withDigit, signed, if_true]
    push_cast
    omega
  | false => simp [withDigit, signed]

/-- A number that has left the range does not come back with more digits. -/
theorem inRange_of_later {negative : Bool} {number later : Nat} (grows : number ≤ later)
    (least : kind.least ≤ signed negative later)
    (greatest : signed negative later ≤ kind.greatest) :
    kind.least ≤ signed negative number ∧ signed negative number ≤ kind.greatest := by
  have zero := zero_inRange kind
  cases negative with
  | true =>
    simp only [signed, if_true] at *
    omega
  | false =>
    simp only [signed, Bool.false_eq_true, if_false] at *
    omega

theorem readDigits_ok_iff {negative : Bool} {start : Nat}
    (startFits : kind.least ≤ signed negative start ∧ signed negative start ≤ kind.greatest) :
    readDigits kind negative (signed negative start) digits = .ok n ↔
      (∀ c ∈ digits, Digits.isDigit c = true) ∧
        n = signed negative (Digits.toNatFrom start digits) ∧
          kind.least ≤ n ∧ n ≤ kind.greatest := by
  induction digits generalizing start with
  | nil =>
    simp only [readDigits, Digits.toNatFrom, List.foldl_nil, Except.ok.injEq]
    constructor
    · rintro rfl
      exact ⟨by simp, rfl, startFits⟩
    · rintro ⟨-, rfl, -⟩
      rfl
  | cons c rest ih =>
    have next : Digits.toNatFrom start (c :: rest) =
        Digits.toNatFrom (10 * start + Digits.value c) rest := rfl
    rw [readDigits, withDigit_signed, next]
    by_cases digit : Digits.isDigit c = true
    · rw [if_pos digit]
      by_cases fits : kind.least ≤ signed negative (10 * start + Digits.value c) ∧
          signed negative (10 * start + Digits.value c) ≤ kind.greatest
      · rw [if_neg (by omega), if_neg (by omega), ih fits]
        simp [digit]
      · -- the number is out of range here, and with all the digits too
        have never : ¬ ((∀ d ∈ c :: rest, Digits.isDigit d = true) ∧
            n = signed negative (Digits.toNatFrom (10 * start + Digits.value c) rest) ∧
            kind.least ≤ n ∧ n ≤ kind.greatest) := by
          rintro ⟨-, rfl, least, greatest⟩
          exact fits (inRange_of_later (Digits.le_toNatFrom _ rest) least greatest)
        refine ⟨fun given => ?_, fun given => absurd given never⟩
        split at given
        · cases given
        · split at given
          · cases given
          · omega
    · rw [if_neg digit]
      refine ⟨fun given => (by cases given), fun given => absurd (given.1 c (by simp)) digit⟩

theorem readDigits_zero_iff (negative : Bool) :
    readDigits kind negative 0 digits = .ok n ↔
      (∀ c ∈ digits, Digits.isDigit c = true) ∧
        n = signed negative (Digits.toNat digits) ∧ kind.least ≤ n ∧ n ≤ kind.greatest := by
  have zero : signed negative 0 = 0 := by cases negative <;> rfl
  have read := @readDigits_ok_iff kind digits n negative 0 (by rw [zero]; exact zero_inRange kind)
  rwa [zero] at read

/-! ## Numerals -/

theorem not_isNumeral {c : Char} {rest : List Char} (noDigit : Digits.isDigit c = false) :
    ¬ Digits.IsNumeral (c :: rest) := by
  intro numeral
  have digit := numeral.each c (by simp)
  rw [noDigit] at digit
  cases digit

theorem numeral_plus_iff :
    Numeral kind ('+' :: digits) n ↔ Digits.IsNumeral digits ∧ n = Digits.toNat digits := by
  constructor
  · intro numeral
    cases numeral with
    | bare numeral => exact absurd numeral (not_isNumeral (by rfl))
    | plus numeral => exact ⟨numeral, rfl⟩
  · rintro ⟨numeral, rfl⟩
    exact .plus numeral

theorem numeral_minus_iff :
    Numeral kind ('-' :: digits) n ↔
      kind.isSigned = true ∧ Digits.IsNumeral digits ∧ n = -(Digits.toNat digits : Int) := by
  constructor
  · intro numeral
    cases numeral with
    | bare numeral => exact absurd numeral (not_isNumeral (by rfl))
    | minus isSigned numeral => exact ⟨isSigned, numeral, rfl⟩
  · rintro ⟨isSigned, numeral, rfl⟩
    exact .minus isSigned numeral

theorem numeral_bare_iff (noPlus : ∀ rest, chars ≠ '+' :: rest)
    (noMinus : ∀ rest, chars ≠ '-' :: rest) :
    Numeral kind chars n ↔ Digits.IsNumeral chars ∧ n = Digits.toNat chars := by
  constructor
  · intro numeral
    cases numeral with
    | bare numeral => exact ⟨numeral, rfl⟩
    | plus numeral => exact absurd rfl (noPlus _)
    | minus isSigned numeral => exact absurd rfl (noMinus _)
  · rintro ⟨numeral, rfl⟩
    exact .bare numeral

theorem readDigits_numeral (negative : Bool) (nonempty : digits ≠ []) :
    readDigits kind negative 0 digits = .ok n ↔
      (Digits.IsNumeral digits ∧ n = signed negative (Digits.toNat digits)) ∧
        kind.least ≤ n ∧ n ≤ kind.greatest := by
  rw [readDigits_zero_iff]
  constructor
  · rintro ⟨each, same, range⟩
    exact ⟨⟨⟨nonempty, each⟩, same⟩, range⟩
  · rintro ⟨⟨numeral, same⟩, range⟩
    exact ⟨numeral.each, same, range⟩

theorem readChars_ok_iff : readChars kind chars = .ok n ↔
    Numeral kind chars n ∧ kind.least ≤ n ∧ n ≤ kind.greatest := by
  unfold readChars
  split
  · have none : ¬ Numeral kind [] n := by
      rw [numeral_bare_iff (by simp) (by simp)]
      exact fun numeral => numeral.1.nonempty rfl
    simp [none]
  · have none : ¬ Numeral kind ['+'] n := by
      rw [numeral_plus_iff]
      exact fun numeral => numeral.1.nonempty rfl
    simp [none]
  · have none : ¬ Numeral kind ['-'] n := by
      rw [numeral_minus_iff]
      exact fun numeral => numeral.2.1.nonempty rfl
    simp [none]
  · rename_i rest some
    rw [readDigits_numeral false some, numeral_plus_iff]
    rfl
  · rename_i rest some
    rw [numeral_minus_iff]
    by_cases isSigned : kind.isSigned = true
    · rw [if_pos isSigned, readDigits_numeral true some]
      simp [isSigned, signed]
    · simp [isSigned]
  · rename_i some _ _ noPlus noMinus
    rw [readDigits_numeral false some, numeral_bare_iff noPlus noMinus]
    rfl

theorem read_ok_iff {value : FixedInt kind} :
    read kind chars = .ok value ↔ Numeral kind chars value.val := by
  have range := And.intro value.least_le value.le_greatest
  unfold read
  split
  · rename_i fault refused
    refine ⟨fun given => (by cases given), fun numeral => ?_⟩
    rw [readChars_ok_iff.mpr ⟨numeral, range⟩] at refused
    cases refused
  · rename_i number done
    constructor
    · intro given
      cases given
      exact (readChars_ok_iff.mp done).1
    · intro numeral
      rw [readChars_ok_iff.mpr ⟨numeral, range⟩] at done
      cases done
      rfl

theorem numeral_ofInt (value : FixedInt kind) :
    Numeral kind (Digits.ofInt value.val) value.val := by
  have least := value.least_le
  have digits := Digits.isNumeral_ofNat value.val.natAbs
  have number := Digits.toNat_ofNat value.val.natAbs
  unfold Digits.ofInt
  by_cases negative : value.val < 0
  · have isSigned : kind.isSigned = true := by
      cases signs : kind.isSigned with
      | true => rfl
      | false =>
        simp only [IntKind.least, signs, Bool.false_eq_true, if_false] at least
        omega
    rw [if_pos negative, numeral_minus_iff]
    exact ⟨isSigned, digits, by rw [number]; omega⟩
  · rw [if_neg negative]
    have bare : Numeral kind (Digits.ofNat value.val.natAbs) _ := .bare digits
    rw [number, Int.natAbs_of_nonneg (by omega)] at bare
    exact bare

theorem read_ofInt (value : FixedInt kind) : read kind (Digits.ofInt value.val) = .ok value :=
  read_ok_iff.mpr (numeral_ofInt value)

end FixedInt

end Unflatten
