import Unflatten.Conversion

/-!
# What conversions come to

The rule that is chosen for a leaf and the type of a column turns every cell of that type into a
value of the leaf's type or into its default, or fails.
-/

set_option autoImplicit false

namespace Unflatten

/-- A member of the type: its name, if it has one, is declared for its number. -/
structure EnumType.Has (type : EnumType) (member : EnumMember) : Prop where
  typeName : member.typeName = type.name
  declared : ∀ name, member.name = some name → (name, member.value) ∈ type.variants

namespace Leaf

theorem defaultValue_text {leaf : Leaf} (kind : leaf.scalarType? = some .string) :
    leaf.defaultValue = .null := by
  obtain ⟨_ | _ | _, _ | _⟩ := leaf
  all_goals cases kind
  all_goals rfl

theorem defaultValue_untyped {leaf : Leaf} (isAny : leaf.isAny = true) :
    leaf.defaultValue = .null := by
  obtain ⟨_ | _ | _, _ | _⟩ := leaf
  all_goals first
    | rfl
    | cases isAny

/-- Exactly the leaf's type, or its default. Untyped leaves and `object` hold anything. -/
inductive Admits (leaf : Leaf) : Value → Prop where
  | untyped {value : Value} (isAny : leaf.isAny = true) : Admits leaf value
  | object {value : Value} (kind : leaf.scalarType? = some .object) : Admits leaf value
  | default : Admits leaf leaf.defaultValue
  | scalar {type : ScalarType} {value : Value} (kind : leaf.scalarType? = some type)
      (exact : value.scalarType? = some type) : Admits leaf value
  | enum {type : EnumType} {member : EnumMember} (kind : leaf.enumType? = some type)
      (has : type.Has member) : Admits leaf (.enum member)

end Leaf

/-- Text of nothing but blanks. -/
def Value.IsBlankText (cell : Value) : Prop :=
  ∃ text, cell = .string text ∧ Text.trimChars text.toList = []

/-- A cell of a column of the type. -/
def ScalarType.Allows (type : ScalarType) (cell : Value) : Prop :=
  cell = .null ∨ cell.scalarType? = some type ∨ type = .object

/-! ## Enumerations -/

namespace EnumType

variable {type : EnumType}

theorem memberNamed?_has {text : String} {member : EnumMember}
    (found : type.memberNamed? text = some member) : type.Has member := by
  unfold memberNamed? at found
  obtain ⟨variant, named, rfl⟩ := Option.map_eq_some_iff.mp found
  refine ⟨rfl, fun name same => ?_⟩
  cases same
  exact List.mem_of_find?_eq_some named

theorem memberOf_has (value : FixedInt .int64) : type.Has (type.memberOf value) := by
  refine ⟨rfl, fun name same => ?_⟩
  obtain ⟨variant, found, rfl⟩ := Option.map_eq_some_iff.mp same
  have matched := List.find?_some found
  simp only [beq_iff_eq] at matched
  have member := List.mem_of_find?_eq_some found
  rw [← matched]
  exact member

end EnumType

theorem ConversionRule.enumMember_has {type : EnumType} {value result : Value}
    (given : enumMember type value = .ok result) :
    ∃ member, result = .enum member ∧ type.Has member := by
  unfold enumMember at given
  split at given
  · rename_i text
    split at given
    · rename_i member found
      cases given
      exact ⟨member, rfl, EnumType.memberNamed?_has found⟩
    · split at given
      · cases given
        exact ⟨_, rfl, EnumType.memberOf_has _⟩
      · cases given
  · split at given
    · cases given
      exact ⟨_, rfl, EnumType.memberOf_has _⟩
    · cases given

/-! ## Numbers and text -/

theorem Except.map_eq_ok {ε α β : Type} {change : α → β} {outcome : Except ε α} {result : β}
    (given : outcome.map change = .ok result) :
    ∃ value, outcome = .ok value ∧ change value = result := by
  cases outcome with
  | error fault => cases given
  | ok value =>
      cases given
      exact ⟨value, rfl, rfl⟩

theorem Except.bind_eq_ok {ε α β : Type} {first : Except ε α} {rest : α → Except ε β} {result : β}
    (given : first.bind rest = .ok result) :
    ∃ value, first = .ok value ∧ rest value = .ok result := by
  cases first with
  | error fault => cases given
  | ok value => exact ⟨value, rfl, given⟩

theorem Except.bind_apart {ε α β : Type} {one other : Except ε α} {tell : α → Except ε β}
    {result another : β} (here : one.bind tell = .ok result) (there : other.bind tell = .ok another)
    (apart : result ≠ another) :
    ∃ value changed, one = .ok value ∧ other = .ok changed ∧ tell value ≠ tell changed := by
  obtain ⟨value, isValue, told⟩ := Except.bind_eq_ok here
  obtain ⟨changed, isChanged, toldOther⟩ := Except.bind_eq_ok there
  refine ⟨value, changed, isValue, isChanged, fun same => apart ?_⟩
  exact Except.ok.inj (told.symm.trans (same.trans toldOther))

theorem Except.of_isOk {ε α : Type} {outcome : Except ε α} (succeeds : outcome.isOk = true) :
    ∃ value, outcome = .ok value := by
  cases outcome with
  | error fault => cases succeeds
  | ok value => exact ⟨value, rfl⟩

theorem Value.cast_type {value result : Value} {type : ScalarType}
    (given : value.cast type = .ok result) : result.scalarType? = some type := by
  unfold cast at given
  split at given
  · obtain ⟨x, -, rfl⟩ := Except.map_eq_ok given
    rfl
  · obtain ⟨x, -, rfl⟩ := Except.map_eq_ok given
    rfl
  · split at given
    · cases given
      rfl
    · cases given
  · obtain ⟨n, -, rfl⟩ := Except.map_eq_ok given
    rfl
  · split at given
    · cases given
    · cases given

theorem Value.convertTruth_type {value result : Value} (given : value.convertTruth = .ok result) :
    result.scalarType? = some .bool := by
  unfold convertTruth at given
  split at given
  · cases given
    rfl
  · cases given

theorem readScalar_type {type : ScalarType} {chars : List Char} {value : Value}
    (notObject : type ≠ .object) (given : readScalar type chars = .ok value) :
    value.scalarType? = some type := by
  unfold readScalar at given
  cases type with
  | object => exact absurd rfl notObject
  | string =>
      cases given
      rfl
  | bool | int | float32 | float64 | decimal | guid | date | dateTime | time | binary =>
      simp only [] at given
      split at given
      · cases given
        rfl
      · cases given

theorem readCell_type {type : ScalarType} {text : String} {value : Value}
    (notObject : type ≠ .object) (given : readCell type text = .ok (some value)) :
    value.scalarType? = some type := by
  unfold readCell at given
  split at given
  · cases given
  · simp only [] at given
    split at given
    · rename_i cell found
      cases given
      exact readScalar_type notObject found
    · cases given

theorem Value.convertOther_blank {value : Value} (blank : value.IsBlankText) (type : ScalarType) :
    value.convertOther type = .ok .null := by
  obtain ⟨text, rfl, empty⟩ := blank
  have missing : readCell type (Text.trim text) = .ok none := by
    unfold readCell
    rw [Text.trim, empty]
    rfl
  simp only [convertOther, missing, Option.getD_none]

theorem Value.convertOther_exact {value result : Value} {type : ScalarType}
    (notObject : type ≠ .object) (notNull : value ≠ .null) (notBlank : ¬ value.IsBlankText)
    (given : value.convertOther type = .ok result) : result.scalarType? = some type := by
  unfold convertOther at given
  split at given
  · exact absurd rfl notNull
  · rename_i text
    split at given
    · rename_i cell found
      cases given
      cases cell with
      | none =>
          refine absurd ⟨text, rfl, ?_⟩ notBlank
          unfold readCell at found
          split at found
          · rename_i empty
            simpa [Text.trim] using empty
          · simp only [] at found
            split at found <;> cases found
      | some value => exact readCell_type notObject found
    · cases given
  · cases given
    rfl
  · cases given
    rfl
  · cases given
    rfl
  · split at given
    · exact cast_type given
    · cases given
  · split at given
    · rename_i truth
      rw [Bool.and_eq_true, beq_iff_eq] at truth
      rw [truth.2]
      exact convertTruth_type given
    · split at given
      · exact cast_type given
      · cases given

theorem Value.convertOther_type {value result : Value} {type : ScalarType}
    (notObject : type ≠ .object) (given : value.convertOther type = .ok result) :
    result = .null ∨ result.scalarType? = some type := by
  by_cases isNull : value = .null
  · subst isNull
    cases given
    exact Or.inl rfl
  · by_cases blank : value.IsBlankText
    · rw [convertOther_blank blank] at given
      cases given
      exact Or.inl rfl
    · exact Or.inr (convertOther_exact notObject isNull blank given)

theorem Value.convert_string {type : ScalarType} (notText : type ≠ .string) (text : String) :
    (Value.string text).convert type = (Value.string text).convertOther type := by
  have otherType : ((Value.string text).scalarType? == some type) = false := by
    simpa [scalarType?] using notText.symm
  have notString : (type == .string) = false := by simpa using notText
  rw [convert, otherType, notString]
  rfl

theorem Value.convert_blank {value : Value} {type : ScalarType} (blank : value.IsBlankText)
    (notText : type ≠ .string) : value.convert type = .ok .null := by
  have missing := convertOther_blank blank type
  obtain ⟨text, rfl, -⟩ := blank
  rw [convert_string notText, missing]

theorem Value.convert_cases {value result : Value} {type : ScalarType}
    (given : value.convert type = .ok result) :
    result.scalarType? = some type ∨ value.convertOther type = .ok result := by
  unfold convert at given
  split at given
  · rename_i same
    cases given
    exact Or.inl (by simpa using same)
  · split at given
    · rename_i isNull
      cases given
      cases value with
      | null => exact Or.inr rfl
      | _ => cases isNull
    · split at given
      · rename_i isText
        cases given
        rw [beq_iff_eq] at isText
        rw [isText]
        exact Or.inl rfl
      · exact Or.inr given

theorem Value.convert_type {value result : Value} {type : ScalarType}
    (notObject : type ≠ .object) (given : value.convert type = .ok result) :
    result = .null ∨ result.scalarType? = some type := by
  rcases convert_cases given with exact | other
  · exact Or.inr exact
  · exact convertOther_type notObject other

theorem Value.convert_number {value result : Value} {source type : ScalarType}
    (numeric : type.isNumeric = true) (held : value.scalarType? = some source)
    (sourceNumeric : source.isNumeric = true) (given : value.convert type = .ok result) :
    result.scalarType? = some type := by
  unfold convert at given
  split at given
  · rename_i same
    cases given
    simpa using same
  · cases value with
    | null | enum | sequence | map | object => cases held
    | bool | guid | date | dateTime | time | binary | string =>
        cases held
        cases sourceNumeric
    | int kind n =>
        cases type with
        | int _ | float32 | float64 | decimal => exact @cast_type (.int kind n) result _ given
        | bool | string | guid | date | dateTime | time | binary | object => cases numeric
    | float32 x =>
        cases type with
        | int _ | float32 | float64 | decimal => exact @cast_type (.float32 x) result _ given
        | bool | string | guid | date | dateTime | time | binary | object => cases numeric
    | float64 x =>
        cases type with
        | int _ | float32 | float64 | decimal => exact @cast_type (.float64 x) result _ given
        | bool | string | guid | date | dateTime | time | binary | object => cases numeric
    | decimal d =>
        cases type with
        | int _ | float32 | float64 | decimal => exact @cast_type (.decimal d) result _ given
        | bool | string | guid | date | dateTime | time | binary | object => cases numeric

/-! ## Rules -/

section Rules

variable {leaf : Leaf} {source : ScalarType} {cell result : Value}

theorem sameType_admits (applies : ConversionRule.sameType.applies leaf source = true)
    (given : ConversionRule.sameType.convert leaf source cell = .ok result)
    (allowed : source.Allows cell) : leaf.Admits result := by
  simp only [ConversionRule.sameType, beq_iff_eq] at applies given
  split at given
  · cases given
    exact Leaf.Admits.default
  · rename_i notNull
    rw [applies] at given
    rcases allowed with rfl | exact | rfl
    · exact absurd rfl notNull
    · simp only [] at given
      rw [Value.convert, if_pos (by simp [exact])] at given
      cases given
      exact Leaf.Admits.scalar applies exact
    · exact Leaf.Admits.object applies

theorem numeric_exact (numeric : source.isNumeric = true) (allowed : source.Allows cell)
    (notNull : cell ≠ .null) : cell.scalarType? = some source := by
  rcases allowed with rfl | exact | rfl
  · exact absurd rfl notNull
  · exact exact
  · cases numeric

theorem numericToNumeric_admits
    (applies : ConversionRule.numericToNumeric.applies leaf source = true)
    (given : ConversionRule.numericToNumeric.convert leaf source cell = .ok result)
    (exact : cell.scalarType? = some source) : leaf.Admits result := by
  simp only [ConversionRule.numericToNumeric, Bool.and_eq_true] at applies given
  obtain ⟨sourceNumeric, numeric⟩ := applies
  cases kind : leaf.scalarType? with
  | none =>
      rw [kind] at numeric
      cases numeric
  | some type =>
      rw [kind] at numeric given
      simp only [] at given
      refine Leaf.Admits.scalar kind ?_
      split at given
      · rename_i number isCast
        cases given
        exact Value.cast_type isCast
      · exact Value.convert_number numeric exact sourceNumeric given

theorem convertible_admits (applies : ConversionRule.convertible.applies leaf source = true)
    (given : ConversionRule.convertible.convert leaf source cell = .ok result) :
    leaf.Admits result := by
  simp only [ConversionRule.convertible, Bool.and_eq_true] at applies given
  obtain ⟨-, convertible⟩ := applies
  cases kind : leaf.scalarType? with
  | none =>
      rw [kind] at convertible
      cases convertible
  | some type =>
      rw [kind] at convertible given
      have notObject : type ≠ .object := by
        rintro rfl
        cases convertible
      simp only [] at given
      split at given
      · rename_i converted found
        cases given
        rcases Value.convert_type notObject found with rfl | exact
        · exact Leaf.Admits.default
        · split
          · exact Leaf.Admits.default
          · exact Leaf.Admits.scalar kind exact
      · cases given

theorem enumeration_admits
    (given : ConversionRule.enumeration.convert leaf source cell = .ok result) :
    leaf.Admits result := by
  simp only [ConversionRule.enumeration] at given
  split at given
  · rename_i type kind
    obtain ⟨member, rfl, has⟩ := ConversionRule.enumMember_has given
    exact Leaf.Admits.enum kind has
  · cases given

theorem stringToGuid_admits (applies : ConversionRule.stringToGuid.applies leaf source = true)
    (given : ConversionRule.stringToGuid.convert leaf source cell = .ok result) :
    leaf.Admits result := by
  simp only [ConversionRule.stringToGuid, Bool.and_eq_true, beq_iff_eq] at applies given
  obtain ⟨-, kind⟩ := applies
  split at given
  · split at given
    · cases given
      exact Leaf.Admits.default
    · split at given
      · rename_i cell found
        cases given
        cases cell with
        | none => exact Leaf.Admits.default
        | some value => exact Leaf.Admits.scalar kind (readCell_type (by simp) found)
      · cases given
  · cases given
    exact Leaf.Admits.scalar kind rfl
  · cases given

theorem toText_admits (applies : ConversionRule.toText.applies leaf source = true)
    (given : ConversionRule.toText.convert leaf source cell = .ok result) :
    leaf.Admits result := by
  simp only [ConversionRule.toText, beq_iff_eq] at applies given
  cases given
  split
  · rw [← Leaf.defaultValue_text applies]
    exact Leaf.Admits.default
  · exact Leaf.Admits.scalar applies rfl

theorem ConversionRule.mem_standard {rule : ConversionRule} :
    rule ∈ standard ↔ rule = sameType ∨ rule = numericToNumeric ∨ rule = numericToBool ∨
      rule = convertible ∨ rule = enumeration ∨ rule = stringToGuid ∨ rule = toText ∨
      rule = objectPassthrough ∨ rule = default := by
  simp only [standard, List.mem_cons, List.not_mem_nil, or_false]

theorem Conversion.select_standard (leaf : Leaf) (source : ScalarType) :
    ∃ rule ∈ ConversionRule.standard, rule.applies leaf source = true ∧
      Conversion.select (ConversionRule.inOrder []) leaf source = ⟨rule, leaf, source⟩ := by
  cases found : ConversionRule.standard.find? fun rule => rule.applies leaf source with
  | none =>
      have refused := List.find?_eq_none.mp found ConversionRule.default
        (by simp [ConversionRule.standard])
      exact absurd rfl refused
  | some rule =>
      have applies := List.find?_some found
      refine ⟨rule, List.mem_of_find?_eq_some found, applies, ?_⟩
      rw [Conversion.select, ConversionRule.inOrder, List.map_nil, List.nil_append, found,
        Option.getD_some]

theorem Conversion.select_gives
    (given : (Conversion.select (ConversionRule.inOrder []) leaf source).apply cell = .ok result) :
    result = leaf.defaultValue ∨
      ∃ rule ∈ ConversionRule.standard, rule.applies leaf source = true ∧
        rule.convert leaf source cell = .ok result ∧ (cell = .null → rule.takesNull = true) := by
  obtain ⟨rule, member, applies, chosen⟩ := Conversion.select_standard leaf source
  rw [chosen, Conversion.apply] at given
  split at given
  · cases given
    exact Or.inl rfl
  · rename_i reaches
    refine Or.inr ⟨rule, member, applies, given, ?_⟩
    rintro rfl
    simpa [Value.isNull] using reaches

theorem Conversion.select_first {rule : ConversionRule} {before after : List ConversionRule}
    (order : ConversionRule.standard = before ++ rule :: after)
    (refused : ∀ other ∈ before, other.applies leaf source = false)
    (applies : rule.applies leaf source = true) :
    Conversion.select (ConversionRule.inOrder []) leaf source = ⟨rule, leaf, source⟩ := by
  have found : ConversionRule.standard.find? (fun rule => rule.applies leaf source) =
      some rule := by
    rw [order, List.find?_append, List.find?_eq_none.mpr (by simpa using refused),
      Option.none_or]
    exact List.find?_cons_of_pos applies
  rw [Conversion.select, ConversionRule.inOrder, List.map_nil, List.nil_append, found,
    Option.getD_some]

theorem Conversion.select_sameType (same : leaf.scalarType? = some source) :
    Conversion.select (ConversionRule.inOrder []) leaf source =
      ⟨ConversionRule.sameType, leaf, source⟩ :=
  Conversion.select_first
    (show ConversionRule.standard = [] ++ ConversionRule.sameType :: _ from rfl) (by simp)
    (by simp [ConversionRule.sameType, same])

theorem Conversion.select_null (leaf : Leaf) (source : ScalarType) :
    (Conversion.select (ConversionRule.inOrder []) leaf source).apply .null =
      .ok leaf.defaultValue := by
  obtain ⟨rule, member, applies, chosen⟩ := Conversion.select_standard leaf source
  rw [chosen]
  rcases ConversionRule.mem_standard.mp member with
    rfl | rfl | rfl | rfl | rfl | rfl | rfl | rfl | rfl
  · rfl
  · rfl
  · rfl
  · rfl
  · rfl
  · rfl
  · simp only [ConversionRule.toText, beq_iff_eq] at applies
    rw [Leaf.defaultValue_text applies]
    rfl
  · rw [Leaf.defaultValue_untyped applies]
    rfl
  · rfl

theorem Conversion.select_admits
    (given : (Conversion.select (ConversionRule.inOrder []) leaf source).apply cell = .ok result)
    (allowed : source.Allows cell) : leaf.Admits result := by
  rcases Conversion.select_gives given with rfl | ⟨rule, member, applies, given, reaches⟩
  · exact Leaf.Admits.default
  · rcases ConversionRule.mem_standard.mp member with
      rfl | rfl | rfl | rfl | rfl | rfl | rfl | rfl | rfl
    · exact sameType_admits applies given allowed
    · have numeric : source.isNumeric = true := (Bool.and_eq_true _ _ ▸ applies).1
      have notNull : cell ≠ .null := fun isNull => by cases reaches isNull
      exact numericToNumeric_admits applies given (numeric_exact numeric allowed notNull)
    · simp only [ConversionRule.numericToBool, Bool.and_eq_true, beq_iff_eq] at applies
      exact Leaf.Admits.scalar applies.2 (Value.convertTruth_type given)
    · exact convertible_admits applies given
    · exact enumeration_admits given
    · exact stringToGuid_admits applies given
    · exact toText_admits applies given
    · exact Leaf.Admits.untyped applies
    · cases given
      exact Leaf.Admits.default

theorem Conversion.select_same (same : leaf.scalarType? = some source)
    (cells : cell.scalarType? = some source ∨ (cell = .null ∧ leaf.defaultValue = .null)) :
    (Conversion.select (ConversionRule.inOrder []) leaf source).apply cell = .ok cell := by
  rw [Conversion.select_sameType same, Conversion.apply, ConversionRule.sameType]
  rcases cells with exact | ⟨rfl, default⟩
  · have notNull : cell.isNull = false := by
      cases cell with
      | null => cases exact
      | _ => rfl
    simp [notNull, same, Value.convert, exact]
  · simp [Value.isNull, default]

end Rules

end Unflatten
