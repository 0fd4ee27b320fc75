import Unflatten.Proofs.Conversion

/-!
# Columns of the leaf's own type

A cell of the leaf's own type passes unchanged. A column of type `object` may hold any value, but
no value is itself of that type, so its cells are converted: text loses its outer blanks, blank
text becomes null, and everything else is refused.
-/

set_option autoImplicit false

namespace Unflatten

/-- Text that starts and ends without a blank. -/
def Value.IsTrimmedText (cell : Value) : Prop :=
  ∃ text, cell = .string text ∧ text ≠ "" ∧ Text.trim text = text

namespace Value

theorem scalarType?_ne_object (cell : Value) : cell.scalarType? ≠ some .object := by
  cases cell with
  | _ => simp [scalarType?]

theorem convert_object_text (text : String) :
    (string text).convert .object =
      .ok (if Text.trim text = "" then .null else .string (Text.trim text)) := by
  rw [convert_string (by simp)]
  by_cases blank : Text.trim text = ""
  · simp [convertOther, readCell, blank]
  · simp [convertOther, readCell, readScalar, blank]

theorem convert_object_other {cell : Value} (notNull : cell ≠ .null)
    (notText : ∀ text, cell ≠ .string text) :
    cell.convert .object = .error (.noConversion cell .object) := by
  have otherType : (cell.scalarType? == some ScalarType.object) = false := by
    simpa using cell.scalarType?_ne_object
  have notString : (ScalarType.object == ScalarType.string) = false := rfl
  rw [convert, otherType, notString]
  cases cell with
  | null => exact absurd rfl notNull
  | string text => exact absurd rfl (notText text)
  | bool => rfl
  | _ => simp [isNull, convertOther, ScalarType.isNumeric]

theorem convert_object_self {cell : Value} (notNull : cell ≠ .null) :
    cell.convert .object = .ok cell ↔ cell.IsTrimmedText := by
  constructor
  · intro passes
    cases cell with
    | string text =>
        rw [convert_object_text] at passes
        by_cases blank : Text.trim text = ""
        · simp [blank] at passes
        · have trimmed : Text.trim text = text := by simpa [blank] using passes
          refine ⟨text, rfl, ?_, trimmed⟩
          rwa [trimmed] at blank
    | _ =>
        rw [convert_object_other notNull (by simp)] at passes
        cases passes
  · rintro ⟨text, rfl, notEmpty, trimmed⟩
    rw [convert_object_text, trimmed, if_neg notEmpty]

end Value

/-- In a column of the leaf's own type every cell passes unchanged, except that of the cells of
type `object` only trimmed text does. -/
theorem Conversion.select_passes (type : ScalarType) (nullable : Bool) {cell : Value}
    (allowed : type.Allows cell) (notNull : cell ≠ .null) :
    (Conversion.select (ConversionRule.inOrder []) ⟨.scalar type, nullable⟩ type).apply cell =
        .ok cell ↔
      (type = .object → cell.IsTrimmedText) := by
  have same : Leaf.scalarType? ⟨.scalar type, nullable⟩ = some type := rfl
  rcases allowed with isNull | exact | rfl
  · exact absurd isNull notNull
  · have notObject : type ≠ .object := by
      rintro rfl
      exact cell.scalarType?_ne_object exact
    exact ⟨fun _ isObject => absurd isObject notObject,
      fun _ => Conversion.select_same same (Or.inl exact)⟩
  · have reaches : cell.isNull = false := by
      cases cell with
      | null => exact absurd rfl notNull
      | _ => rfl
    rw [Conversion.select_sameType same]
    simp only [Conversion.apply, ConversionRule.sameType, reaches, Leaf.scalarType?,
      Bool.false_and, Bool.false_eq_true, if_false, forall_const]
    exact Value.convert_object_self notNull

/-! ### Tokens -/

namespace Tokens

def five : Value :=
  .int .int32 (FixedInt.wrapping .int32 5)

def outcome (cell : Value) : Except ConversionFault Value :=
  (Conversion.select (ConversionRule.inOrder []) ⟨.scalar .object, false⟩ .object).apply cell

theorem mark_passes :
    ScalarType.object.Allows (.string "mark") ∧ Value.string "mark" ≠ .null ∧
      (Value.string "mark").IsTrimmedText ∧ outcome (.string "mark") = .ok (.string "mark") := by
  have allowed : ScalarType.object.Allows (.string "mark") := Or.inr (Or.inr rfl)
  have notNull : Value.string "mark" ≠ .null := by simp
  have trimmed : (Value.string "mark").IsTrimmedText := ⟨"mark", rfl, by decide, by decide⟩
  exact ⟨allowed, notNull, trimmed,
    (Conversion.select_passes .object false allowed notNull).mpr fun _ => trimmed⟩

theorem five_refused :
    ScalarType.object.Allows five ∧ five ≠ .null ∧
      outcome five = .error (.noConversion five .object) :=
  ⟨Or.inr (Or.inr rfl), by simp [five], by rfl⟩

end Tokens

end Unflatten
