import Unflatten.Proofs.Conversion

/-!
# Exact results

Cells are not checked against the type of their column. For a leaf whose default is a value,
conversion still comes to values of exactly the leaf's type, except in one case: blank text in a
column of the leaf's own type, or in a column of numbers for a leaf of numbers. There the null that
`convert` makes of blank text is handed out. Everywhere else it is replaced by the default.
-/

set_option autoImplicit false

namespace Unflatten

namespace Leaf

/-- A value of the leaf's type, and not null. -/
inductive Exact (leaf : Leaf) : Value → Prop where
  | scalar {type : ScalarType} {value : Value} (kind : leaf.scalarType? = some type)
      (exact : value.scalarType? = some type) : Exact leaf value
  | enum {type : EnumType} {member : EnumMember} (kind : leaf.enumType? = some type)
      (has : type.Has member) : Exact leaf (.enum member)

/-- The columns for which the null of blank text does not become the default. -/
def KeepsBlank (leaf : Leaf) (source : ScalarType) : Prop :=
  leaf.scalarType? = some source ∨
    source.isNumeric = true ∧ ∃ type, leaf.scalarType? = some type ∧ type.isNumeric = true

variable {leaf : Leaf} {value : Value}

theorem Exact.ne_null (exact : leaf.Exact value) : value ≠ .null := by
  rintro rfl
  cases exact with
  | scalar _ exact => cases exact

theorem hasZero_of_valued {type : ScalarType} (valued : leaf.defaultValue ≠ .null)
    (kind : leaf.scalarType? = some type) : type.hasZero = true := by
  obtain ⟨_ | _ | _, _ | _⟩ := leaf
  all_goals cases kind
  · cases type with
    | string | binary | object => exact absurd rfl valued
    | _ => rfl
  · exact absurd rfl valued

theorem defaultValue_exact (valued : leaf.defaultValue ≠ .null) :
    leaf.Exact leaf.defaultValue := by
  obtain ⟨kind, nullable⟩ := leaf
  cases nullable with
  | true => exact absurd rfl valued
  | false =>
      cases kind with
      | scalar type =>
          refine Exact.scalar rfl ?_
          cases type with
          | string | binary | object => exact absurd rfl valued
          | _ => rfl
      | enum type => exact Exact.enum rfl (EnumType.memberOf_has _)
      | any => exact absurd rfl valued

theorem Admits.exact (admits : leaf.Admits value) (valued : leaf.defaultValue ≠ .null) :
    leaf.Exact value := by
  cases admits with
  | untyped isAny => exact absurd (defaultValue_untyped isAny) valued
  | object kind => cases hasZero_of_valued valued kind
  | default => exact defaultValue_exact valued
  | scalar kind exact => exact Exact.scalar kind exact
  | enum kind has => exact Exact.enum kind has

end Leaf

/-! ## Blank text -/

section Conversions

variable {leaf : Leaf} {source type : ScalarType} {cell result : Value}

theorem Value.cast_blank (blank : cell.IsBlankText) (numeric : type.isNumeric = true) :
    ∃ fault, cell.cast type = .error fault := by
  obtain ⟨text, rfl, -⟩ := blank
  cases type with
  | int | float32 | float64 | decimal => exact ⟨_, rfl⟩
  | _ => cases numeric

theorem Value.convert_exact (notObject : type ≠ .object) (notNull : cell ≠ .null)
    (notBlank : ¬ cell.IsBlankText) (given : cell.convert type = .ok result) :
    result.scalarType? = some type := by
  rcases convert_cases given with exact | other
  · exact exact
  · exact convertOther_exact notObject notNull notBlank other

/-! ## The two rules that keep the null -/

theorem sameType_blank (valued : leaf.defaultValue ≠ .null)
    (same : leaf.scalarType? = some source) (blank : cell.IsBlankText) :
    (Conversion.select (ConversionRule.inOrder []) leaf source).apply cell = .ok .null := by
  have zero := Leaf.hasZero_of_valued valued same
  have notText : source ≠ .string := by
    rintro rfl
    cases zero
  have missing := Value.convert_blank blank notText
  obtain ⟨text, rfl, -⟩ := blank
  simp [Conversion.select_sameType same, Conversion.apply, ConversionRule.sameType, Value.isNull,
    same, missing]

theorem numericToNumeric_blank (different : leaf.scalarType? ≠ some source)
    (sourceNumeric : source.isNumeric = true) (kind : leaf.scalarType? = some type)
    (numeric : type.isNumeric = true) (blank : cell.IsBlankText) :
    (Conversion.select (ConversionRule.inOrder []) leaf source).apply cell = .ok .null := by
  have chosen := Conversion.select_first
    (show ConversionRule.standard =
      [ConversionRule.sameType] ++ ConversionRule.numericToNumeric :: _ from rfl)
    (by simpa [ConversionRule.sameType] using different)
    (by simp [ConversionRule.numericToNumeric, sourceNumeric, kind, numeric])
  have notText : type ≠ .string := by
    rintro rfl
    cases numeric
  have missing := Value.convert_blank blank notText
  obtain ⟨fault, noNumber⟩ := Value.cast_blank blank numeric
  obtain ⟨text, rfl, -⟩ := blank
  simp [chosen, Conversion.apply, ConversionRule.numericToNumeric, Value.isNull, kind, noNumber,
    missing]

theorem sameType_exact (valued : leaf.defaultValue ≠ .null)
    (applies : ConversionRule.sameType.applies leaf source = true)
    (given : ConversionRule.sameType.convert leaf source cell = .ok result)
    (replaced : ¬ (leaf.KeepsBlank source ∧ cell.IsBlankText)) : leaf.Exact result := by
  simp only [ConversionRule.sameType, beq_iff_eq] at applies given
  split at given
  · cases given
    exact Leaf.defaultValue_exact valued
  · rename_i notNull
    have notBlank : ¬ cell.IsBlankText := fun blank => replaced ⟨Or.inl applies, blank⟩
    have zero := Leaf.hasZero_of_valued valued applies
    rw [applies] at given
    refine Leaf.Exact.scalar applies (Value.convert_exact ?_ ?_ notBlank given)
    · rintro rfl
      cases zero
    · rintro rfl
      exact notNull rfl

theorem numericToNumeric_exact (notNull : cell ≠ .null)
    (applies : ConversionRule.numericToNumeric.applies leaf source = true)
    (given : ConversionRule.numericToNumeric.convert leaf source cell = .ok result)
    (replaced : ¬ (leaf.KeepsBlank source ∧ cell.IsBlankText)) : leaf.Exact result := by
  simp only [ConversionRule.numericToNumeric, Bool.and_eq_true] at applies given
  obtain ⟨sourceNumeric, numeric⟩ := applies
  cases kind : leaf.scalarType? with
  | none =>
      rw [kind] at numeric
      cases numeric
  | some type =>
      rw [kind] at numeric given
      have notBlank : ¬ cell.IsBlankText := fun blank =>
        replaced ⟨Or.inr ⟨sourceNumeric, type, kind, numeric⟩, blank⟩
      have notObject : type ≠ .object := by
        rintro rfl
        cases numeric
      refine Leaf.Exact.scalar kind ?_
      simp only [] at given
      split at given
      · rename_i number isCast
        cases given
        exact Value.cast_type isCast
      · exact Value.convert_exact notObject notNull notBlank given

/-- For a leaf whose default is a value, conversion comes to null for blank text in the columns
that keep it, and to a value of exactly the leaf's type or a fault everywhere else. -/
theorem Conversion.select_exact (valued : leaf.defaultValue ≠ .null) (source : ScalarType)
    (cell : Value) :
    let outcome := (Conversion.select (ConversionRule.inOrder []) leaf source).apply cell
    (leaf.KeepsBlank source ∧ cell.IsBlankText → outcome = .ok .null) ∧
      (¬ (leaf.KeepsBlank source ∧ cell.IsBlankText) →
        ∀ result, outcome = .ok result → result ≠ .null ∧ leaf.Exact result) := by
  intro outcome
  constructor
  · rintro ⟨same | ⟨sourceNumeric, type, kind, numeric⟩, blank⟩
    · exact sameType_blank valued same blank
    · by_cases same : leaf.scalarType? = some source
      · exact sameType_blank valued same blank
      · exact numericToNumeric_blank same sourceNumeric kind numeric blank
  · intro replaced result given
    suffices exact : leaf.Exact result from ⟨exact.ne_null, exact⟩
    rcases Conversion.select_gives given with rfl | ⟨rule, member, applies, given, reaches⟩
    · exact Leaf.defaultValue_exact valued
    · -- only the first two rules depend on how the cell and the column fit together
      rcases ConversionRule.mem_standard.mp member with
        rfl | rfl | rfl | rfl | rfl | rfl | rfl | rfl | rfl
      · exact sameType_exact valued applies given replaced
      · have notNull : cell ≠ .null := fun isNull => by cases reaches isNull
        exact numericToNumeric_exact notNull applies given replaced
      · simp only [ConversionRule.numericToBool, Bool.and_eq_true, beq_iff_eq] at applies
        exact Leaf.Exact.scalar applies.2 (Value.convertTruth_type given)
      · exact (convertible_admits applies given).exact valued
      · exact (enumeration_admits given).exact valued
      · exact (stringToGuid_admits applies given).exact valued
      · exact (toText_admits applies given).exact valued
      · exact (Leaf.Admits.untyped applies).exact valued
      · cases given
        exact Leaf.defaultValue_exact valued

end Conversions

/-! ### Gauges -/

namespace Gauges

def reading : Leaf :=
  ⟨.scalar (.int .int32), false⟩

def seven : Value :=
  .int .int32 (FixedInt.wrapping .int32 7)

def outcome (text : String) : Except ConversionFault Value :=
  (Conversion.select (ConversionRule.inOrder []) reading (.int .int64)).apply (.string text)

theorem padded_seven :
    reading.defaultValue ≠ .null ∧ outcome " " = .ok .null ∧ outcome " 7 " = .ok seven ∧
      seven ≠ .null ∧ reading.Exact seven := by
  have valued : reading.defaultValue ≠ .null := by
    intro isNull
    cases isNull
  have keeps : reading.KeepsBlank (.int .int64) := Or.inr ⟨rfl, .int .int32, rfl, rfl⟩
  have blank : (Value.string " ").IsBlankText := ⟨" ", rfl, by rfl⟩
  have notBlank : ¬ (reading.KeepsBlank (.int .int64) ∧ (Value.string " 7 ").IsBlankText) := by
    rintro ⟨-, text, same, empty⟩
    cases same
    exact absurd empty (by decide)
  have shown : outcome " 7 " = .ok seven := by rfl
  have null := (Conversion.select_exact valued (.int .int64) (.string " ")).1 ⟨keeps, blank⟩
  have typed := (Conversion.select_exact valued (.int .int64) (.string " 7 ")).2 notBlank
  exact ⟨valued, null, shown, typed seven shown⟩

/-- The null of empty text reaches a leaf that has a default. -/
theorem empty_null :
    reading.defaultValue ≠ .null ∧
      (Conversion.select (ConversionRule.inOrder []) reading (.int .int32)).apply (.string "") =
        .ok .null := by
  refine ⟨?_, by rfl⟩
  intro isNull
  cases isNull

end Gauges

end Unflatten
