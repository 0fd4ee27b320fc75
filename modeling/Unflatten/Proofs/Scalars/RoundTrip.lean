import Unflatten.Proofs.Conversion
import Unflatten.Proofs.Scalars.Decimals
import Unflatten.Proofs.Scalars.Identifiers
import Unflatten.Proofs.Scalars.Integers
import Unflatten.Proofs.Scalars.Moments

/-!
# Values by way of text

A truth value, a number without floating point, an identifier, bytes, a date or a time of whole
seconds that is converted to text and back again is the same value. A decimal keeps its amount. A
leap second has to end its minute, since any other is written like the second behind it.
-/

set_option autoImplicit false

namespace Unflatten

namespace Value

/-- Values whose text holds all of them. -/
def IsPrintable : Value → Prop
  | .bool _ | .int _ _ | .decimal _ | .guid _ | .date _ => True
  | .binary bytes => bytes ≠ []
  | .dateTime moment => moment.time.IsTold
  | .time t => t.IsTold
  | _ => False

/-- The same value, or decimals of one amount. -/
inductive Equals : Value → Value → Prop where
  | refl (value : Value) : Equals value value
  | decimal {left right : Decimal} (same : left.amount = right.amount) :
      Equals (.decimal left) (.decimal right)

end Value

/-- Trimmed text that is read as the value. -/
structure ReadsAs (type : ScalarType) (text : String) (value : Value) : Prop where
  trimmed : Text.trim text = text
  nonempty : text ≠ ""
  read : readScalar type text.toList = .ok value

namespace ReadsAs

variable {type : ScalarType} {chars : List Char} {text : String} {value : Value}

theorem ofChars (trimmed : Text.trimChars chars = chars) (nonempty : chars ≠ [])
    (read : readScalar type chars = .ok value) : ReadsAs type (String.ofList chars) value where
  trimmed := by rw [Text.trim, String.toList_ofList, trimmed]
  nonempty := by simpa using nonempty
  read := by rw [String.toList_ofList, read]

theorem convert (reads : ReadsAs type text value) (notText : type ≠ .string) :
    (Value.string text).convert type = .ok value := by
  have isThere : text.isEmpty = false := by simpa using reads.nonempty
  have chars : Text.trimChars text.toList = text.toList := by
    have back := congrArg String.toList reads.trimmed
    rwa [Text.trim, String.toList_ofList] at back
  have cell : readCell type text = .ok (some value) := by
    have read := reads.read
    unfold readCell
    rw [isThere, if_neg (by simp)]
    cases type with
    | string => exact absurd rfl notText
    | _ => simp only [chars, read]
  rw [Value.convert_string notText, Value.convertOther, reads.trimmed, cell]
  rfl

theorem bool (b : Bool) : ReadsAs .bool (Value.display (.bool b)) (.bool b) := by
  cases b with
  | true => exact ⟨by rfl, by decide, by rfl⟩
  | false => exact ⟨by rfl, by decide, by rfl⟩

theorem int (kind : IntKind) (n : FixedInt kind) :
    ReadsAs (.int kind) (Value.display (.int kind n)) (.int kind n) := by
  apply ofChars (Digits.trimChars_ofInt n.val)
  · exact (FixedInt.numeral_ofInt n).ne_nil
  · simp only [readScalar, FixedInt.read_ofInt]

theorem decimal (d : Decimal) :
    ∃ e, ReadsAs .decimal (Value.display (.decimal d)) (.decimal e) ∧ e.amount = d.amount := by
  obtain ⟨e, read, amount⟩ := d.normalize.read_chars
  refine ⟨e, ofChars ?_ d.normalize.chars_ne_nil ?_, amount.trans d.amount_normalize⟩
  · exact Text.trimChars_solid fun _ => Decimal.chars_solid
  · simp only [readScalar, read]

theorem guid (g : Guid) : ReadsAs .guid (Value.display (.guid g)) (.guid g) := by
  apply ofChars g.trimChars_chars
  · intro empty
    have bytes := g.byteLength_chars
    rw [empty] at bytes
    cases bytes
  · simp only [readScalar, Guid.read_chars]

theorem date (d : Date) : ReadsAs .date (Value.display (.date d)) (.date d) := by
  apply ofChars (Text.trimChars_solid fun _ => Calendar.date_solid) (Calendar.date_nonempty d)
  simp only [readScalar, Calendar.readDate?_chars]

theorem time {t : Time} (told : t.IsTold) :
    ReadsAs .time (Value.display (.time t)) (.time t) := by
  apply ofChars (Text.trimChars_solid fun _ => Calendar.time_solid) (Calendar.time_nonempty t)
  simp only [readScalar, Calendar.readTime?_chars told]

theorem dateTime {moment : DateTime} (told : moment.time.IsTold) :
    ReadsAs .dateTime (Value.display (.dateTime moment)) (.dateTime moment) := by
  have trimmed := Text.trimChars_between (Calendar.date_nonempty moment.date)
    (fun _ => Calendar.date_solid) (Calendar.time_nonempty moment.time)
    (fun _ => Calendar.time_solid) [' ']
  rw [List.append_assoc, List.singleton_append] at trimmed
  apply ofChars trimmed
  · simp
  · simp only [readScalar, Calendar.readDateTime?_chars told]

theorem binary {bytes : List UInt8} (nonempty : bytes ≠ []) :
    ReadsAs .binary (Value.display (.binary bytes)) (.binary bytes) := by
  have spells := Hex.spells_encode bytes
  apply ofChars
  · apply Text.trimChars_solid
    intro c member
    obtain ⟨n, digit⟩ := Option.isSome_iff_exists.mp (spells.isDigit c member)
    have bounds := Digits.hexValue?_bounds digit
    exact Text.isBlank_graphic (by omega) (by omega)
  · intro empty
    have lengths := spells.length_eq
    rw [empty, List.length_nil] at lengths
    exact nonempty (List.eq_nil_of_length_eq_zero (by omega))
  · simp only [readScalar, Hex.decode_encode]

end ReadsAs

namespace Value

theorem convert_display {value : Value} {type : ScalarType} (held : value.scalarType? = some type)
    (notText : type ≠ .string) : value.convert .string = .ok (string value.display) := by
  have otherType : (value.scalarType? == some .string) = false := by
    rw [held]
    simpa using notText
  have notNull : value.isNull = false := by
    cases value with
    | null => cases held
    | _ => rfl
  rw [convert, otherType, notNull]
  rfl

theorem convert_back {value back : Value} {type : ScalarType}
    (held : value.scalarType? = some type) (notText : type ≠ .string)
    (reads : ReadsAs type value.display back) (same : back.Equals value) :
    ∃ back, value.convert .string = .ok (string value.display) ∧
      (string value.display).convert type = .ok back ∧ back.Equals value :=
  ⟨back, convert_display held notText, reads.convert notText, same⟩

/-- A value that is converted to text and back to its type is the same value. -/
theorem convert_text_back {value : Value} {type : ScalarType}
    (held : value.scalarType? = some type) (printable : value.IsPrintable) :
    ∃ back, value.convert .string = .ok (string value.display) ∧
      (string value.display).convert type = .ok back ∧ back.Equals value := by
  have same := Equals.refl value
  -- one case for each type, whose text is read by the lemma of its name
  cases value with
  | bool b =>
    cases held
    exact convert_back rfl (by simp) (.bool b) same
  | int kind n =>
    cases held
    exact convert_back rfl (by simp) (.int kind n) same
  | decimal d =>
    cases held
    obtain ⟨e, reads, amount⟩ := ReadsAs.decimal d
    exact convert_back rfl (by simp) reads (.decimal amount)
  | guid g =>
    cases held
    exact convert_back rfl (by simp) (.guid g) same
  | date d =>
    cases held
    exact convert_back rfl (by simp) (.date d) same
  | dateTime moment =>
    cases held
    exact convert_back rfl (by simp) (.dateTime printable) same
  | time t =>
    cases held
    exact convert_back rfl (by simp) (.time printable) same
  | binary bytes =>
    cases held
    exact convert_back rfl (by simp) (.binary printable) same
  | _ => exact printable.elim

end Value

/-! ### Leap seconds -/

namespace LeapSeconds

/-- A leap second of the year `-44`. -/
def longNight : DateTime :=
  ⟨⟨-44, 3, 15, by decide⟩, (Time.ofParts? 23 59 60 0).get rfl⟩

theorem longNight_back :
    (Value.dateTime longNight).scalarType? = some .dateTime ∧
      (Value.dateTime longNight).IsPrintable ∧
      (Value.dateTime longNight).convert .string = .ok (.string "-0044-03-15 23:59:60") ∧
      (Value.string "-0044-03-15 23:59:60").convert .dateTime = .ok (.dateTime longNight) := by
  have held : (Value.dateTime longNight).scalarType? = some .dateTime := by rfl
  have printable : (Value.dateTime longNight).IsPrintable := Or.inr ⟨rfl, rfl⟩
  obtain ⟨back, text, read, same⟩ := Value.convert_text_back held printable
  have display : (Value.dateTime longNight).display = "-0044-03-15 23:59:60" := by rfl
  rw [display] at text read
  cases same
  exact ⟨held, printable, text, read⟩

/-- A leap second within its minute. -/
def early : Time :=
  ⟨10, 20, 30, 1000000000, by decide, by decide, by decide, by decide⟩

/-- Its text is that of the second behind it, as which it comes back. -/
theorem early_lost :
    (Value.time early).convert .string = .ok (.string "10:20:31") ∧
      ∃ back, (Value.string "10:20:31").convert .time = .ok back ∧
        ¬ back.Equals (.time early) := by
  refine ⟨by rfl, .time ⟨10, 20, 31, 0, by decide, by decide, by decide, by decide⟩, by rfl, ?_⟩
  intro same
  cases same

end LeapSeconds

end Unflatten
