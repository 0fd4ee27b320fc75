import Mathlib.Data.List.DropRight
import Unflatten.Proofs.Conversion

/-!
# Two readings of text

Text comes to a value of a type when its column is read as that type, or when it is held as text
and converted. Both readings look at the trimmed text. They part on blank text that is not empty:
the first looks for a value in it and finds none, the second takes it for missing.
-/

set_option autoImplicit false

namespace Unflatten

/-! ## Trimming -/

namespace Text

theorem trimStart_trimChars (chars : List Char) :
    trimStart (trimChars chars) = trimChars chars := by
  refine List.dropWhile_eq_self_iff.mpr fun inside => ?_
  have lead : trimChars chars <+: trimStart chars := List.rdropWhile_prefix isBlank _
  have within : 0 < (trimStart chars).length := Nat.lt_of_lt_of_le inside lead.length_le
  rw [lead.getElem inside]
  exact List.dropWhile_get_zero_not isBlank chars within

@[simp] theorem trimChars_trimChars (chars : List Char) :
    trimChars (trimChars chars) = trimChars chars := by
  rw [trimChars, trimStart_trimChars]
  exact List.rdropWhile_idempotent isBlank (trimStart chars)

end Text

/-! ## The two readings -/

/-- The trimmed text as a value of the type. -/
def readTrimmed (type : ScalarType) (text : String) : Except ReadError Value :=
  match readScalar type (Text.trimChars text.toList) with
  | .ok value => .ok value
  | .error fault => .error ⟨String.ofList (Text.trimChars text.toList), fault⟩

section Readings

variable {type : ScalarType} {text : String} {value : Value} {error : ReadError}

theorem readTrimmed_trim (type : ScalarType) (text : String) :
    readTrimmed type (Text.trim text) = readTrimmed type text := by
  unfold readTrimmed
  rw [Text.trim, String.toList_ofList, Text.trimChars_trimChars]

variable (valued : type.hasZero = true)
include valued

theorem readTrimmed_type (given : readTrimmed type text = .ok value) :
    value.scalarType? = some type := by
  unfold readTrimmed at given
  split at given
  · rename_i read
    cases given
    refine readScalar_type ?_ read
    rintro rfl
    cases valued
  · cases given

theorem readTrimmed_blank (blank : Text.trimChars text.toList = []) :
    ∃ error, readTrimmed type text = .error error := by
  unfold readTrimmed
  rw [blank]
  cases type with
  | string | binary | object => cases valued
  | _ => exact ⟨_, rfl⟩

theorem readCell_eq_readTrimmed (notEmpty : text ≠ "") :
    readCell type text = (readTrimmed type text).map some := by
  have isThere : text.isEmpty = false := by simpa using notEmpty
  unfold readCell readTrimmed
  rw [isThere]
  cases type with
  | string | binary | object => cases valued
  | _ =>
      simp only [Bool.false_eq_true, if_false]
      generalize readScalar _ _ = outcome
      cases outcome <;> rfl

end Readings

theorem Value.convert_text {type : ScalarType} {text : String} (valued : type.hasZero = true)
    (notBlank : Text.trimChars text.toList ≠ []) :
    (Value.string text).convert type =
      (readTrimmed type text).mapError ConversionFault.unreadable := by
  have notText : type ≠ .string := by
    rintro rfl
    cases valued
  have notEmpty : Text.trim text ≠ "" := by simpa [Text.trim] using notBlank
  simp only [convert_string notText, convertOther, readCell_eq_readTrimmed valued notEmpty,
    readTrimmed_trim]
  cases readTrimmed type text <;> rfl

namespace Conversion

theorem select_text {type : ScalarType} (valued : type.hasZero = true) (nullable : Bool) :
    Conversion.select (ConversionRule.inOrder []) ⟨.scalar type, nullable⟩ .string =
      ⟨if type = .guid then ConversionRule.stringToGuid else ConversionRule.convertible,
        ⟨.scalar type, nullable⟩, .string⟩ := by
  cases type with
  | string | binary | object => cases valued
  | _ => rfl

theorem apply_string (conversion : Conversion) (text : String) :
    conversion.apply (.string text) =
      conversion.rule.convert conversion.leaf conversion.source (.string text) :=
  rfl

theorem apply_blankText {type : ScalarType} {text : String} (valued : type.hasZero = true)
    (nullable : Bool) (blank : Text.trimChars text.toList = []) :
    (Conversion.select (ConversionRule.inOrder []) ⟨.scalar type, nullable⟩ .string).apply
        (.string text) =
      .ok (Leaf.defaultValue ⟨.scalar type, nullable⟩) := by
  rw [select_text valued, apply_string]
  by_cases isGuid : type = .guid
  · simp [isGuid, ConversionRule.stringToGuid, blank]
  · have notText : type ≠ .string := by
      rintro rfl
      cases valued
    have missing := Value.convert_blank ⟨text, rfl, blank⟩ notText
    simp [isGuid, ConversionRule.convertible, Value.isNull, Leaf.scalarType?, missing]

theorem apply_text {type : ScalarType} {text : String} (valued : type.hasZero = true)
    (nullable : Bool) (notBlank : Text.trimChars text.toList ≠ []) :
    (Conversion.select (ConversionRule.inOrder []) ⟨.scalar type, nullable⟩ .string).apply
        (.string text) =
      (readTrimmed type text).mapError ConversionFault.unreadable := by
  rw [select_text valued, apply_string]
  by_cases isGuid : type = .guid
  · have notEmpty : text ≠ "" := by
      rintro rfl
      exact notBlank rfl
    subst isGuid
    have read := readCell_eq_readTrimmed valued notEmpty
    cases outcome : readTrimmed .guid text <;>
      simp [ConversionRule.stringToGuid, notBlank, read, outcome, Except.map, Except.mapError]
  · have converted := Value.convert_text valued notBlank
    cases outcome : readTrimmed type text with
    | error error =>
        simp [isGuid, ConversionRule.convertible, Leaf.scalarType?, converted, outcome,
          Except.mapError]
    | ok value =>
        have notNull : value.isNull = false := by
          cases value with
          | null => cases readTrimmed_type valued outcome
          | _ => rfl
        simp [isGuid, ConversionRule.convertible, Leaf.scalarType?, converted, outcome,
          Except.mapError, notNull]

end Conversion

end Unflatten
