import Mathlib.Data.Int.ModEq
import Unflatten.Conversion
import Unflatten.Proofs.Scalars.Decimals

/-!
# Casts to integers

A number is cast to an integer type by cutting it off toward zero and taking the one value of the
type that is congruent to the rest modulo two to the width. Casts by way of a wider type or of
decimals come to the same.
-/

set_option autoImplicit false

namespace Unflatten

/-! ## Integers of one width -/

theorem IntKind.wrap_modEq (kind : IntKind) (n : Int) :
    kind.wrap n ≡ n [ZMOD 2 ^ kind.width] := by
  have power : ((twoTo kind.width : Nat) : Int) = 2 ^ kind.width := by simp [twoTo]
  unfold IntKind.wrap Int.ModEq
  rw [← power]
  split
  · exact Int.bmod_emod
  · exact Int.emod_emod n _

/-- Every value of the one type is a value of the other. -/
def IntKind.Widens (source kind : IntKind) : Prop :=
  if source.isSigned = kind.isSigned then source.width ≤ kind.width
  else kind.isSigned = true ∧ source.width < kind.width

instance (source kind : IntKind) : Decidable (source.Widens kind) := by
  unfold IntKind.Widens
  infer_instance

theorem IntKind.widens_iff (source kind : IntKind) :
    source.Widens kind ↔ kind.least ≤ source.least ∧ source.greatest ≤ kind.greatest := by
  cases source <;> cases kind <;> decide

namespace FixedInt

variable {kind middle : IntKind}

theorem eq_of_modEq {left right : FixedInt kind}
    (same : left.val ≡ right.val [ZMOD 2 ^ kind.width]) : left = right := by
  apply FixedInt.ext
  have leftLeast := left.least_le
  have leftGreatest := left.le_greatest
  have rightLeast := right.least_le
  have rightGreatest := right.le_greatest
  unfold Int.ModEq at same
  cases kind with
  | _ =>
    simp [IntKind.least, IntKind.greatest, IntKind.isSigned, IntKind.width, twoTo] at *
    omega

theorem modEq_iff {n : Int} {value : FixedInt kind} :
    value.val ≡ n [ZMOD 2 ^ kind.width] ↔ value = wrapping kind n := by
  have wrapped := kind.wrap_modEq n
  constructor
  · intro same
    exact eq_of_modEq (same.trans wrapped.symm)
  · rintro rfl
    exact wrapped

theorem wrapping_val (value : FixedInt kind) : wrapping kind value.val = value :=
  (modEq_iff.mp rfl).symm

theorem wrapping_of_range {n : Int} (least : kind.least ≤ n) (greatest : n ≤ kind.greatest) :
    (wrapping kind n).val = n :=
  congrArg val (wrapping_val ⟨n, least, greatest⟩)

theorem wrapping_wrapping (wider : kind.width ≤ middle.width) (n : Int) :
    wrapping kind (wrapping middle n).val = wrapping kind n := by
  have divides : (2 ^ kind.width : Int) ∣ 2 ^ middle.width := pow_dvd_pow 2 wider
  exact modEq_iff.mp ((kind.wrap_modEq _).trans ((middle.wrap_modEq n).of_dvd divides))

theorem natAbs_lt (value : FixedInt kind) : value.val.natAbs < mantissaLimit := by
  have least := value.least_le
  have greatest := value.le_greatest
  cases kind with
  | _ =>
    simp [IntKind.least, IntKind.greatest, IntKind.isSigned, IntKind.width, twoTo,
      mantissaLimit] at *
    omega

end FixedInt

theorem Decimal.ofInt?_some {n : Int} (fits : n.natAbs < mantissaLimit) :
    ∃ d, Decimal.ofInt? n = some d ∧ d.truncate = n := by
  refine ⟨_, dif_pos ⟨fits, by decide⟩, ?_⟩
  simp only [truncate, tenTo_zero, Nat.div_one, decide_eq_true_eq]
  split
  · omega
  · omega

namespace Value

/-- The number that an integer, a decimal or a member of an enumeration stands for. -/
inductive Measures : Value → ℚ → Prop where
  | int (kind : IntKind) (n : FixedInt kind) : Measures (.int kind n) n.val
  | decimal (d : Decimal) : Measures (.decimal d) d.amount
  | enum (member : EnumMember) : Measures (.enum member) member.value.val

variable {value : Value} {amount : ℚ} {kind : IntKind}

theorem cast_of_measures (number : value.Measures amount) (kind : IntKind) :
    value.cast (.int kind) = .ok (.int kind (FixedInt.wrapping kind (towardZero amount))) := by
  cases number with
  | int source n =>
    rw [towardZero_intCast]
    rfl
  | decimal d =>
    rw [← Decimal.truncate_eq]
    rfl
  | enum member =>
    rw [towardZero_intCast]
    rfl

theorem cast_int (source kind : IntKind) (n : FixedInt source) :
    (Value.int source n).cast (.int kind) = .ok (.int kind (FixedInt.wrapping kind n.val)) :=
  rfl

theorem cast_decimal (number : value.Measures amount) :
    ∃ d : Decimal, value.cast .decimal = .ok (.decimal d) ∧ d.truncate = towardZero amount := by
  cases number with
  | int source n =>
    obtain ⟨d, made, whole⟩ := Decimal.ofInt?_some n.natAbs_lt
    refine ⟨d, ?_, by rw [whole, towardZero_intCast]⟩
    simp [cast, asDecimal?, asInt?, made]
  | decimal d => exact ⟨d, rfl, d.truncate_eq⟩
  | enum member =>
    obtain ⟨d, made, whole⟩ := Decimal.ofInt?_some member.value.natAbs_lt
    refine ⟨d, ?_, by rw [whole, towardZero_intCast]⟩
    simp [cast, asDecimal?, asInt?, made]

/-- A cast to an integer type comes to the one value that is congruent to the number, cut off
toward zero, modulo two to the width. So a number in the range of the type is kept, and a detour by
a type that is at least as wide, or by decimals, changes nothing. -/
theorem cast_congruent (number : value.Measures amount) (kind : IntKind) :
    ∃ result : FixedInt kind,
      value.cast (.int kind) = .ok (.int kind result) ∧
      (∀ other : FixedInt kind,
        other.val ≡ towardZero amount [ZMOD 2 ^ kind.width] ↔ other = result) ∧
      (kind.least ≤ towardZero amount → towardZero amount ≤ kind.greatest →
        result.val = towardZero amount) ∧
      (∀ source n, value = .int source n → source.Widens kind → result.val = n.val) ∧
      (∀ middle : IntKind, kind.width ≤ middle.width →
        (value.cast (.int middle)).bind (cast · (.int kind)) = .ok (.int kind result)) ∧
      (value.cast .decimal).bind (cast · (.int kind)) = .ok (.int kind result) := by
  refine ⟨FixedInt.wrapping kind (towardZero amount), cast_of_measures number kind,
    fun other => FixedInt.modEq_iff, FixedInt.wrapping_of_range, ?_, ?_, ?_⟩
  · rintro source n rfl widens
    cases number
    obtain ⟨least, greatest⟩ := (IntKind.widens_iff source kind).mp widens
    rw [towardZero_intCast]
    exact FixedInt.wrapping_of_range (least.trans n.least_le) (n.le_greatest.trans greatest)
  · intro middle wider
    rw [cast_of_measures number middle, Except.bind, cast_int, FixedInt.wrapping_wrapping wider]
  · obtain ⟨d, made, whole⟩ := cast_decimal number
    rw [made, Except.bind, cast_of_measures (.decimal d) kind, ← Decimal.truncate_eq, whole]

end Value

/-! ### Debts -/

namespace Debts

/-- The decimal `-300.75`. -/
def overdue : Decimal :=
  ⟨true, 30075, 2, by decide, by decide⟩

theorem overdue_cast :
    (Value.decimal overdue).Measures (-1203 / 4) ∧
      (Value.decimal overdue).cast (.int .uint8) =
        .ok (.int .uint8 (FixedInt.wrapping .uint8 212)) ∧
      ((Value.decimal overdue).cast (.int .int16)).bind (Value.cast · (.int .uint8)) =
        .ok (.int .uint8 (FixedInt.wrapping .uint8 212)) := by
  have amount : overdue.amount = -1203 / 4 := by
    norm_num [overdue, Decimal.amount, Decimal.amountOf]
  have number : (Value.decimal overdue).Measures (-1203 / 4) := amount ▸ .decimal overdue
  have whole : towardZero (-1203 / 4) = -300 := by
    rw [← amount, ← Decimal.truncate_eq]
    rfl
  obtain ⟨result, cast, unique, -, -, detour, -⟩ := Value.cast_congruent number .uint8
  have same : FixedInt.wrapping .uint8 212 = result := by
    refine (unique _).mp ?_
    rw [whole]
    decide
  rw [same]
  exact ⟨number, cast, detour .int16 (by decide)⟩

end Debts

end Unflatten
