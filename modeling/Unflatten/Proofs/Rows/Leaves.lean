import Unflatten.Proofs.Conversion

/-!
# Conversions of leaves

A cell that is no container is converted into a value that is none, and such values count as one
leaf each.
-/

set_option autoImplicit false

namespace Unflatten

namespace Value

/-- No sequence, no map and no object. -/
def isLeaf : Value → Bool
  | sequence _ _ | map _ | object _ _ => false
  | _ => true

variable {value result : Value} {type : ScalarType}

theorem isLeaf_of_scalarType? (exact : value.scalarType? = some type) : value.isLeaf = true := by
  cases value with
  | sequence | map | object => cases exact
  | _ => rfl

theorem leafCount_leaf (isLeaf : value.isLeaf = true) : value.leafCount = 1 := by
  cases value with
  | sequence | map | object => cases isLeaf
  | _ => rfl

theorem leafCountItems_leaves {values : List Value}
    (leaves : ∀ value ∈ values, value.isLeaf = true) : leafCountItems values = values.length := by
  induction values with
  | nil => rfl
  | cons first rest ih =>
      rw [leafCountItems, leafCount_leaf (leaves first (by simp)),
        ih fun value member => leaves value (by simp [member]), List.length_cons, Nat.add_comm]

theorem leafCountItems_append (left right : List Value) :
    leafCountItems (left ++ right) = leafCountItems left + leafCountItems right := by
  induction left with
  | nil => rw [List.nil_append, leafCountItems, Nat.zero_add]
  | cons first rest ih => rw [List.cons_append, leafCountItems, leafCountItems, ih, Nat.add_assoc]

theorem leafCountItems_perm {values others : List Value} (same : values.Perm others) :
    leafCountItems values = leafCountItems others := by
  induction same with
  | nil => rfl
  | cons value _ ih => rw [leafCountItems, leafCountItems, ih]
  | swap one other rest =>
      rw [leafCountItems, leafCountItems, leafCountItems, leafCountItems, Nat.add_left_comm]
  | trans _ _ first second => exact first.trans second

theorem leafCountEntries_perm {entries others : Entries Value} (same : entries.Perm others) :
    leafCountEntries entries = leafCountEntries others := by
  induction same with
  | nil => rfl
  | cons entry _ ih => rw [leafCountEntries, leafCountEntries, ih]
  | swap one other rest =>
      rw [leafCountEntries, leafCountEntries, leafCountEntries, leafCountEntries,
        Nat.add_left_comm]
  | trans _ _ first second => exact first.trans second

/-! ## Conversions -/

theorem defaultValue_leaf (type : ScalarType) : type.defaultValue.isLeaf = true := by
  cases type <;> rfl

theorem readCell_object {text : String} (given : readCell .object text = .ok (some value)) :
    value.isLeaf = true := by
  unfold readCell at given
  split at given
  · cases given
  · cases given
    rfl

theorem convertOther_leaf (given : value.convertOther type = .ok result) :
    result.isLeaf = true := by
  by_cases isObject : type = .object
  · subst isObject
    unfold convertOther at given
    split at given
    · cases given
      rfl
    · split at given
      · rename_i cell found
        cases given
        cases cell with
        | none => rfl
        | some value => exact readCell_object found
      · cases given
    · cases given
      rfl
    · cases given
      rfl
    · cases given
      rfl
    · cases given
    · have notTruth : (ScalarType.object == ScalarType.bool) = false := rfl
      have notNumber : ScalarType.object.isNumeric = false := rfl
      rw [notTruth, notNumber, Bool.and_false] at given
      cases given
  · rcases convertOther_type isObject given with rfl | exact
    · rfl
    · exact isLeaf_of_scalarType? exact

theorem convert_leaf (isLeaf : value.isLeaf = true) (given : value.convert type = .ok result) :
    result.isLeaf = true := by
  unfold convert at given
  split at given
  · cases given
    exact isLeaf
  · split at given
    · cases given
      rfl
    · split at given
      · cases given
        rfl
      · exact convertOther_leaf given

end Value

theorem Leaf.defaultValue_leaf (leaf : Leaf) : leaf.defaultValue.isLeaf = true := by
  unfold defaultValue
  split
  · rfl
  · split
    · exact Value.defaultValue_leaf _
    · rfl
    · rfl

/-! ## Rules -/

/-- The rule makes no container of a leaf. -/
def ConversionRule.KeepsLeaves (rule : ConversionRule) : Prop :=
  ∀ (leaf : Leaf) (source : ScalarType) (value result : Value),
    rule.convert leaf source value = .ok result → value.isLeaf = true → result.isLeaf = true

namespace ConversionRule

theorem sameType_leaves : sameType.KeepsLeaves := by
  intro leaf source value result given isLeaf
  simp only [sameType] at given
  split at given
  · cases given
    exact leaf.defaultValue_leaf
  · split at given
    · exact Value.convert_leaf isLeaf given
    · cases given
      exact isLeaf

theorem numericToNumeric_leaves : numericToNumeric.KeepsLeaves := by
  intro leaf source value result given isLeaf
  simp only [numericToNumeric] at given
  split at given
  · cases given
  · split at given
    · rename_i cast
      cases given
      exact Value.isLeaf_of_scalarType? (Value.cast_type cast)
    · exact Value.convert_leaf isLeaf given

theorem convertible_leaves : convertible.KeepsLeaves := by
  intro leaf source value result given isLeaf
  simp only [convertible] at given
  split at given
  · cases given
  · split at given
    · rename_i converted
      cases given
      split
      · exact leaf.defaultValue_leaf
      · exact Value.convert_leaf isLeaf converted
    · cases given

theorem enumeration_leaves : enumeration.KeepsLeaves := by
  intro leaf source value result given isLeaf
  simp only [enumeration] at given
  split at given
  · obtain ⟨member, rfl, -⟩ := enumMember_has given
    rfl
  · cases given

theorem stringToGuid_leaves : stringToGuid.KeepsLeaves := by
  intro leaf source value result given isLeaf
  simp only [stringToGuid] at given
  split at given
  · split at given
    · cases given
      exact leaf.defaultValue_leaf
    · split at given
      · rename_i cell found
        cases given
        cases cell with
        | none => exact leaf.defaultValue_leaf
        | some guid => exact Value.isLeaf_of_scalarType? (readCell_type (by simp) found)
      · cases given
  · cases given
    rfl
  · cases given

theorem standard_leaves : ∀ rule ∈ standard, rule.KeepsLeaves := by
  intro rule member
  rcases mem_standard.mp member with rfl | rfl | rfl | rfl | rfl | rfl | rfl | rfl | rfl
  · exact sameType_leaves
  · exact numericToNumeric_leaves
  · intro leaf source value result given _
    exact Value.isLeaf_of_scalarType? (Value.convertTruth_type given)
  · exact convertible_leaves
  · exact enumeration_leaves
  · exact stringToGuid_leaves
  · intro leaf source value result given _
    cases given
    split
    · rfl
    · rfl
  · intro leaf source value result given isLeaf
    cases given
    exact isLeaf
  · intro leaf source value result given _
    cases given
    exact leaf.defaultValue_leaf

end ConversionRule

/-- Rules of the caller's own may make a container of a cell; where they do not, no rule does. -/
theorem Conversion.select_leaf {rules : List CustomRule} {leaf : Leaf} {source : ScalarType}
    {cell result : Value} (keeps : ∀ rule ∈ rules, rule.KeepsLeaves)
    (given : (Conversion.select (ConversionRule.inOrder rules) leaf source).apply cell = .ok result)
    (isLeaf : cell.isLeaf = true) : result.isLeaf = true := by
  unfold Conversion.apply at given
  split at given
  · cases given
    exact leaf.defaultValue_leaf
  · simp only [Conversion.select] at given
    cases found : (ConversionRule.inOrder rules).find? fun rule => rule.applies leaf source with
    | none =>
        rw [found] at given
        cases given
        exact leaf.defaultValue_leaf
    | some rule =>
        rw [found] at given
        rcases List.mem_append.mp (List.mem_of_find?_eq_some found) with own | isStandard
        · obtain ⟨custom, member, rfl⟩ := List.mem_map.mp own
          exact keeps custom member leaf source cell result given isLeaf
        · exact ConversionRule.standard_leaves rule isStandard leaf source cell result given isLeaf

end Unflatten
