import Unflatten.Proofs.Conversion
import Unflatten.Proofs.Scalars.Integers
import Unflatten.Proofs.Scalars.Trimming

/-!
# Members of enumerations as text

The text that a member is displayed with selects the same member again, in any letter case and with
any blanks around it. Text that is neither a name of the type nor a number is refused.
-/

set_option autoImplicit false

namespace Unflatten

/-- Blanks around the other text, its letters in any case. -/
def Text.Respells (text other : String) : Prop :=
  ∃ before core behind, text.toList = before ++ core ++ behind ∧
    (∀ c ∈ before, isBlank c = true) ∧ (∀ c ∈ behind, isBlank c = true) ∧
    core.map Char.toLower = other.toList.map Char.toLower

/-- Names that are told apart by more than letter case, have no blanks around them and are no
numbers. -/
structure EnumType.IsReadable (type : EnumType) : Prop where
  distinct : type.variants.Pairwise fun one other =>
    Text.equalIgnoringCase one.1 other.1 = false
  trimmed : ∀ variant ∈ type.variants, Text.trim variant.1 = variant.1
  unnumbered : ∀ variant ∈ type.variants, ∀ number : FixedInt .int64,
    ¬ FixedInt.Numeral .int64 variant.1.toList number.val

namespace Text

variable {text other : String}

theorem Respells.trimmed (respells : Respells text other)
    (trimmed : trimChars other.toList = other.toList) :
    (trimChars text.toList).map Char.toLower = other.toList.map Char.toLower := by
  obtain ⟨before, core, behind, whole, blankBefore, blankBehind, same⟩ := respells
  rw [whole, trimChars_surrounded blankBefore blankBehind, ← trimChars_toLower, same,
    trimChars_toLower, trimmed]

theorem Respells.equalIgnoringCase (respells : Respells text other) (trimmed : trim other = other) :
    equalIgnoringCase (trim text) other = true := by
  have solid : trimChars other.toList = other.toList := by
    simpa [trim] using congrArg String.toList trimmed
  simpa [Text.equalIgnoringCase, trim] using respells.trimmed solid

theorem Respells.letterless (respells : Respells text other)
    (trimmed : trimChars other.toList = other.toList)
    (letterless : ∀ c ∈ other.toList, c.isAlpha = false) :
    trimChars text.toList = other.toList :=
  eq_of_sameLower (respells.trimmed trimmed) letterless

end Text

/-! ## Members -/

namespace EnumType

variable {type : EnumType} {text : String}

theorem IsReadable.unique (readable : type.IsReadable) {one other : String × FixedInt .int64}
    (isOne : one ∈ type.variants) (isOther : other ∈ type.variants)
    (same : Text.equalIgnoringCase one.1 other.1 = true) : one = other :=
  Text.eq_of_distinct readable.distinct isOne isOther same

theorem IsReadable.memberNamed? (readable : type.IsReadable)
    {variant : String × FixedInt .int64} (member : variant ∈ type.variants)
    (same : Text.equalIgnoringCase (Text.trim text) variant.1 = true) :
    type.memberNamed? text = some (type.member (some variant.1) variant.2) := by
  have matched : Text.equalIgnoringCase variant.1 (Text.trim text) = true :=
    Text.equalIgnoringCase_symm same
  unfold EnumType.memberNamed?
  cases found : type.variants.find? fun variant =>
      Text.equalIgnoringCase variant.1 (Text.trim text) with
  | none => exact absurd matched (List.find?_eq_none.mp found variant member)
  | some other =>
    have otherMatched := List.find?_some found
    have one : other = variant := readable.unique (List.mem_of_find?_eq_some found) member
      (Text.equalIgnoringCase_trans otherMatched same)
    rw [one]
    rfl

theorem memberNamed?_none
    (unnamed : ∀ variant ∈ type.variants,
      Text.equalIgnoringCase variant.1 (Text.trim text) = false) :
    type.memberNamed? text = none := by
  rw [EnumType.memberNamed?, Option.map_eq_none_iff, List.find?_eq_none]
  intro variant member
  simp [unnamed variant member]

end EnumType

/-! ## Conversion -/

namespace ConversionRule

variable {type : EnumType} {text : String}

theorem enumMember_named {member : EnumMember} (named : type.memberNamed? text = some member) :
    enumMember type (.string text) = .ok (.enum member) := by
  simp [enumMember, named]

theorem enumMember_numbered {number : FixedInt .int64}
    (unnamed : ∀ variant ∈ type.variants,
      Text.equalIgnoringCase variant.1 (Text.trim text) = false)
    (read : FixedInt.read .int64 (Text.trimChars text.toList) = .ok number) :
    enumMember type (.string text) = .ok (.enum (type.memberOf number)) := by
  simp [enumMember, EnumType.memberNamed?_none unnamed, read]

theorem enumMember_refused {fault : IntFault}
    (unnamed : ∀ variant ∈ type.variants,
      Text.equalIgnoringCase variant.1 (Text.trim text) = false)
    (read : FixedInt.read .int64 (Text.trimChars text.toList) = .error fault) :
    enumMember type (.string text) = .error (.notMember text type.name) := by
  simp [enumMember, EnumType.memberNamed?_none unnamed, read]

theorem enumMember_name (readable : type.IsReadable) {variant : String × FixedInt .int64}
    (member : variant ∈ type.variants) (respells : Text.Respells text variant.1) :
    enumMember type (.string text) = .ok (.enum (type.member (some variant.1) variant.2)) :=
  enumMember_named (readable.memberNamed? member
    (respells.equalIgnoringCase (readable.trimmed variant member)))

theorem enumMember_digits (readable : type.IsReadable) {number : FixedInt .int64}
    (respells : Text.Respells text number.text) :
    enumMember type (.string text) = .ok (.enum (type.memberOf number)) := by
  have digits : (number.text).toList = Digits.ofInt number.val := by
    rw [FixedInt.text, Digits.intText, String.toList_ofList]
  have letterless := Digits.ofInt_letterless number.val
  have trimmed : Text.trimChars text.toList = Digits.ofInt number.val := by
    rw [← digits] at letterless ⊢
    apply respells.letterless _ letterless
    rw [digits, Digits.trimChars_ofInt]
  have unnamed : ∀ variant ∈ type.variants,
      Text.equalIgnoringCase variant.1 (Text.trim text) = false := by
    intro variant member
    rw [Bool.eq_false_iff]
    intro same
    -- a name in the letter case of a numeral is that numeral
    have spelt : variant.1.toList = Digits.ofInt number.val := by
      apply Text.eq_of_sameLower _ letterless
      simpa [Text.equalIgnoringCase, Text.trim, trimmed] using same
    apply readable.unnumbered variant member number
    rw [spelt]
    exact FixedInt.numeral_ofInt number
  apply enumMember_numbered unnamed
  rw [trimmed, FixedInt.read_ofInt]

theorem enumMember_respelt (readable : type.IsReadable) {number : FixedInt .int64}
    (respells : Text.Respells text (Value.display (.enum (type.memberOf number)))) :
    enumMember type (.string text) = .ok (.enum (type.memberOf number)) := by
  cases found : type.variants.find? fun variant => variant.2 == number with
  | some variant =>
    have declared : variant.2 = number := by simpa using List.find?_some found
    have isMember : type.memberOf number = type.member (some variant.1) variant.2 := by
      rw [EnumType.memberOf, found, Option.map_some, declared]
    rw [isMember] at respells ⊢
    exact enumMember_name readable (List.mem_of_find?_eq_some found) respells
  | none =>
    have isMember : type.memberOf number = type.member none number := by
      rw [EnumType.memberOf, found, Option.map_none]
    rw [isMember] at respells
    exact enumMember_digits readable respells

end ConversionRule

/-- The displayed text of a member, respelt, is converted to the member again. Text that is neither
a name of the type nor a numeral is refused. -/
theorem Conversion.select_member {type : EnumType} (readable : type.IsReadable) (nullable : Bool) :
    let outcome (text : String) :=
      (Conversion.select (ConversionRule.inOrder []) ⟨.enum type, nullable⟩ .string).apply
        (.string text)
    (∀ number text, Text.Respells text (Value.display (.enum (type.memberOf number))) →
      outcome text = .ok (.enum (type.memberOf number))) ∧
    (∀ text, (∀ variant ∈ type.variants,
        Text.equalIgnoringCase variant.1 (Text.trim text) = false) →
      (∀ number : FixedInt .int64,
        ¬ FixedInt.Numeral .int64 (Text.trimChars text.toList) number.val) →
      outcome text = .error (.notMember text type.name)) := by
  intro outcome
  have enumerated : ∀ text, outcome text = ConversionRule.enumMember type (.string text) :=
    fun _ => rfl
  constructor
  · intro number text respells
    rw [enumerated, ConversionRule.enumMember_respelt readable respells]
  · intro text unnamed unnumbered
    cases read : FixedInt.read .int64 (Text.trimChars text.toList) with
    | ok number => exact absurd (FixedInt.read_ok_iff.mp read) (unnumbered number)
    | error fault => rw [enumerated, ConversionRule.enumMember_refused unnamed read]

/-! ### Paints -/

namespace Paints

def one : FixedInt .int64 :=
  FixedInt.wrapping .int64 1

/-- Two names for one number. -/
def color : EnumType :=
  ⟨0, "Color", [("Red", one), ("Crimson", one)]⟩

theorem color_readable : color.IsReadable where
  distinct := by decide
  trimmed := by decide
  unnumbered := by
    intro variant member number numeral
    have read := FixedInt.read_ok_iff.mpr numeral
    simp only [color, List.mem_cons, List.not_mem_nil, or_false] at member
    rcases member with rfl | rfl
    · cases read
    · cases read

def outcome (text : String) : Except ConversionFault Value :=
  (Conversion.select (ConversionRule.inOrder []) ⟨.enum color, false⟩ .string).apply (.string text)

/-- A number with two names goes by the first, and a number without one by its digits. -/
theorem members_again :
    color.IsReadable ∧
      outcome " rED" = .ok (.enum ⟨"Color", some "Red", one⟩) ∧
      outcome "-7 " = .ok (.enum ⟨"Color", none, FixedInt.wrapping .int64 (-7)⟩) ∧
      outcome "purple" = .error (.notMember "purple" "Color") := by
  obtain ⟨again, refused⟩ := Conversion.select_member color_readable false
  have blank : ∀ c ∈ [' '], Text.isBlank c = true := List.forall_mem_singleton.mpr rfl
  refine ⟨color_readable, ?_, ?_, ?_⟩
  · exact again one " rED" ⟨[' '], "rED".toList, [], by rfl, blank, by simp, by rfl⟩
  · exact again (FixedInt.wrapping .int64 (-7)) "-7 "
      ⟨[], "-7".toList, [' '], by rfl, by simp, blank, by rfl⟩
  · refine refused "purple" (by decide) fun number numeral => ?_
    cases FixedInt.read_ok_iff.mpr numeral

end Paints

end Unflatten
