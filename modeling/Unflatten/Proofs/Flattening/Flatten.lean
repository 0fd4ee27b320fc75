import Unflatten.Planning.Strategy
import Unflatten.Proofs.Entries
import Unflatten.Proofs.Flattening.Names

/-!
# Flattened instances

A record type has assignable properties that are scalars or records in turn, with names that a
separator keeps apart. A whole instance of one has no record missing. Flattened it is one column for
each scalar, named by the way to it, with the cell that holds its value.
-/

set_option autoImplicit false

namespace Unflatten

/-- The scalar that a target is, if it is one that does not hold anything. -/
def Target.primitive? (target : Target) : Option ScalarType :=
  (target.leaf?.bind Leaf.scalarType?).filter fun type => type ≠ .object

theorem Target.primitive?_some {target : Target} {type : ScalarType}
    (isPrimitive : target.primitive? = some type) :
    ∃ leaf, target.leaf? = some leaf ∧ leaf.scalarType? = some type := by
  obtain ⟨found, -⟩ := Option.filter_eq_some_iff.mp isPrimitive
  exact Option.bind_eq_some_iff.mp found

/-- What one type says for itself: it is declared without constructors, and its properties can be
told apart and set. -/
structure ObjectTypeOf.IsRecord (separator : Char) (type : ObjectType) : Prop where
  implicit : ∃ implicit, type =
    ObjectTypeOf.declare type.ident type.name false type.properties implicit []
  segments : ∀ property ∈ type.properties, IsSegment separator property.name
  distinct : type.properties.Pairwise fun one other =>
    Text.equalIgnoringCase one.name other.name = false
  assignable : ∀ property ∈ type.properties, property.isAssignable = true
  noSinks : ∀ property ∈ type.properties, property.isSink = false
  scalar : ∃ property ∈ type.properties, property.target.primitive?.isSome = true

section Records

variable (bindings : Bindings) (separator : Char)

/-- A record type whose nested types are record types, at most so many levels down. -/
inductive NestsWithin : Nat → ObjectType → Prop where
  | flat {depth : Nat} {type : ObjectType} (record : type.IsRecord separator)
      (scalars : ∀ property ∈ type.properties, property.target.primitive?.isSome = true) :
      NestsWithin depth type
  | nested {depth : Nat} {type : ObjectType} (record : type.IsRecord separator)
      (kinds : ∀ property ∈ type.properties, property.target.primitive?.isSome = true ∨
        ∃ inner, property.target.resolve bindings = .object inner)
      (within : ∀ property ∈ type.properties, ∀ inner,
        property.target.resolve bindings = .object inner → NestsWithin depth inner) :
      NestsWithin (depth + 1) type

/-- A value of the type with a field for each property: a value of exactly its type for a scalar,
which may be null where its default is null, and a whole instance for a nested type. -/
inductive IsWhole : ObjectType → Value → Prop where
  | object {type : ObjectType} {fields : List (String × Value)}
      (sorted : Entries.Sorted fields)
      (names : ∀ name, name ∈ Entries.names fields ↔
        ∃ property ∈ type.properties, property.name = name)
      (scalars : ∀ property ∈ type.properties, ∀ scalar,
        property.target.primitive? = some scalar → ∀ value, (property.name, value) ∈ fields →
          value.scalarType? = some scalar ∨
            (value = .null ∧ property.target.defaultValue = .null))
      (nested : ∀ property ∈ type.properties, ∀ inner,
        property.target.resolve bindings = .object inner →
          ∀ value, (property.name, value) ∈ fields → IsWhole inner value) :
      IsWhole type (.object type.name fields)

end Records

section Flattening

variable (bindings : Bindings) (separator : String)

mutual

/-- The columns and cells of an instance that a path of properties leads to. -/
def flatten (type : ObjectType) (path : List String) : Value → List (Column × Value)
  | .object _ fields => flattenFields type path fields
  | _ => []

def flattenFields (type : ObjectType) (path : List String) :
    List (String × Value) → List (Column × Value)
  | [] => []
  | (name, value) :: rest =>
    (match type.properties.find? fun property => property.name == name with
      | none => []
      | some property =>
        match property.target.primitive? with
        | some scalar =>
          [(Column.declare (Text.join separator (path ++ [name])) scalar, value)]
        | none =>
          match property.target.resolve bindings with
          | .object inner => flatten inner (path ++ [name]) value
          | _ => [])
      ++ flattenFields type path rest

end

end Flattening

/-! ## Records -/

namespace NestsWithin

variable {bindings : Bindings} {separator : Char} {depth : Nat} {type inner : ObjectType}
variable {property : Property}

theorem record (nests : NestsWithin bindings separator depth type) : type.IsRecord separator := by
  cases nests with
  | flat record => exact record
  | nested record => exact record

theorem kinds (nests : NestsWithin bindings separator depth type)
    (member : property ∈ type.properties) :
    (∃ scalar, property.target.primitive? = some scalar) ∨
      ∃ inner, property.target.resolve bindings = .object inner := by
  cases nests with
  | flat _ scalars => exact Or.inl (Option.isSome_iff_exists.mp (scalars property member))
  | nested _ kinds _ =>
      rcases kinds property member with scalar | nested
      · exact Or.inl (Option.isSome_iff_exists.mp scalar)
      · exact Or.inr nested

end NestsWithin

theorem Target.primitive?_object {target : Target} {bindings : Bindings} {inner : ObjectType}
    (isObject : target.resolve bindings = .object inner) : target.primitive? = none := by
  cases target with
  | reference ref => rfl
  | object type => rfl
  | _ => cases isObject

theorem NestsWithin.inner {bindings : Bindings} {separator : Char} {depth : Nat}
    {type inner : ObjectType} {property : Property}
    (nests : NestsWithin bindings separator depth type) (member : property ∈ type.properties)
    (isObject : property.target.resolve bindings = .object inner) :
    ∃ less, depth = less + 1 ∧ NestsWithin bindings separator less inner := by
  cases nests with
  | flat _ scalars =>
      have isScalar := scalars property member
      rw [Target.primitive?_object isObject] at isScalar
      cases isScalar
  | nested _ _ within => exact ⟨_, rfl, within property member inner isObject⟩

namespace ObjectTypeOf.IsRecord

variable {separator : Char} {type : ObjectType} {one other : Property}

theorem same (record : type.IsRecord separator) (isOne : one ∈ type.properties)
    (isOther : other ∈ type.properties)
    (folded : (foldName one.name).toList = (foldName other.name).toList) : one = other := by
  rw [(record.segments one isOne).folded, (record.segments other isOther).folded] at folded
  exact PropertyOf.eq_of_distinct record.distinct isOne isOther
    (by simp [Text.equalIgnoringCase, folded])

theorem find?_name (record : type.IsRecord separator) (member : one ∈ type.properties) :
    type.properties.find? (fun property => property.name == one.name) = some one := by
  cases found : type.properties.find? fun property => property.name == one.name with
  | none => exact absurd (List.find?_eq_none.mp found one member) (by simp)
  | some property =>
      have named : property.name = one.name := by simpa using List.find?_some found
      rw [record.same (List.mem_of_find?_eq_some found) member (by rw [named])]

end ObjectTypeOf.IsRecord

/-! ## Whole instances -/

theorem Value.field_of_mem {typeName name : String} {fields : List (String × Value)} {item : Value}
    (sorted : Entries.Sorted fields) (member : (name, item) ∈ fields) :
    (Value.object typeName fields).field name = item := by
  simp only [Value.field, Object.getIgnoringCase?, Entries.get?_of_mem sorted member,
    Option.getD_some]

namespace IsWhole

variable {bindings : Bindings} {type inner : ObjectType} {value : Value} {property : Property}

theorem field_mem {fields : List (String × Value)} (sorted : Entries.Sorted fields)
    (names : ∀ name, name ∈ Entries.names fields ↔
      ∃ property ∈ type.properties, property.name = name)
    (member : property ∈ type.properties) :
    (property.name, (Value.object type.name fields).field property.name) ∈ fields := by
  obtain ⟨⟨name, item⟩, isField, same⟩ :=
    List.mem_map.mp ((names property.name).mpr ⟨property, member, rfl⟩)
  cases same
  rw [Value.field_of_mem sorted isField]
  exact isField

theorem scalar {scalar : ScalarType} (whole : IsWhole bindings type value)
    (member : property ∈ type.properties)
    (isScalar : property.target.primitive? = some scalar) :
    (value.field property.name).scalarType? = some scalar ∨
      (value.field property.name = .null ∧ property.target.defaultValue = .null) := by
  cases whole with
  | object sorted names scalars _ =>
      exact scalars property member scalar isScalar _ (field_mem sorted names member)

theorem nested (whole : IsWhole bindings type value) (member : property ∈ type.properties)
    (isObject : property.target.resolve bindings = .object inner) :
    IsWhole bindings inner (value.field property.name) := by
  cases whole with
  | object sorted names _ nested =>
      exact nested property member inner isObject _ (field_mem sorted names member)

end IsWhole

/-! ## Cells of a flattened instance -/

section Cells

variable {bindings : Bindings} {separator : Char} {type : ObjectType} {path : List String}
variable {value : Value} {cell : Column × Value}

/-- A cell of the property: its own, or one of its nested instance. -/
def IsCellOf (bindings : Bindings) (separator : Char) (path : List String) (property : Property)
    (value : Value) (cell : Column × Value) : Prop :=
  (∃ scalar, property.target.primitive? = some scalar ∧
      cell = (Column.declare (Text.join separator.toString (path ++ [property.name])) scalar,
        value)) ∨
    ∃ inner, property.target.resolve bindings = .object inner ∧
      cell ∈ flatten bindings separator.toString inner (path ++ [property.name]) value

theorem mem_flattenFields {fields : List (String × Value)} (record : type.IsRecord separator) :
    cell ∈ flattenFields bindings separator.toString type path fields ↔
      ∃ property ∈ type.properties, ∃ value, (property.name, value) ∈ fields ∧
        IsCellOf bindings separator path property value cell := by
  induction fields with
  | nil => simp [flattenFields]
  | cons field rest ih =>
      obtain ⟨name, item⟩ := field
      rw [flattenFields, List.mem_append, ih]
      constructor
      · rintro (here | ⟨property, member, value, isField, isCell⟩)
        · split at here
          · cases here
          · rename_i property found
            have member := List.mem_of_find?_eq_some found
            obtain rfl : property.name = name := by simpa using List.find?_some found
            refine ⟨property, member, item, by simp, ?_⟩
            split at here
            · rename_i scalar isScalar
              exact Or.inl ⟨scalar, isScalar, List.mem_singleton.mp here⟩
            · split at here
              · rename_i inner isObject
                exact Or.inr ⟨inner, isObject, here⟩
              · cases here
        · exact ⟨property, member, value, List.mem_cons_of_mem _ isField, isCell⟩
      · rintro ⟨property, member, value, isField, isCell⟩
        rcases List.mem_cons.mp isField with same | isField
        · cases same
          refine Or.inl ?_
          rw [record.find?_name member]
          rcases isCell with ⟨scalar, isScalar, rfl⟩ | ⟨inner, isObject, isCell⟩
          · simp [isScalar]
          · simp only [Target.primitive?_object isObject, isObject]
            exact isCell
        · exact Or.inr ⟨property, member, value, isField, isCell⟩

theorem mem_flatten (record : type.IsRecord separator) (whole : IsWhole bindings type value) :
    cell ∈ flatten bindings separator.toString type path value ↔
      ∃ property ∈ type.properties,
        IsCellOf bindings separator path property (value.field property.name) cell := by
  cases whole with
  | @object _ fields sorted names _ _ =>
      rw [flatten, mem_flattenFields record]
      constructor
      · rintro ⟨property, member, item, isField, isCell⟩
        rw [← Value.field_of_mem sorted isField] at isCell
        exact ⟨property, member, isCell⟩
      · rintro ⟨property, member, isCell⟩
        exact ⟨property, member, _, IsWhole.field_mem sorted names member, isCell⟩

theorem flatten_named {depth : Nat} (nests : NestsWithin bindings separator depth type)
    (whole : IsWhole bindings type value)
    (member : cell ∈ flatten bindings separator.toString type path value) :
    ∃ rest, rest ≠ [] ∧ (∀ step ∈ rest, IsSegment separator step) ∧
      cell.1.name = Text.join separator.toString (path ++ rest) := by
  induction depth generalizing type path value with
  | zero =>
      obtain ⟨property, isProperty, ⟨scalar, -, rfl⟩ | ⟨inner, isObject, -⟩⟩ :=
        (mem_flatten nests.record whole).mp member
      · refine ⟨[property.name], by simp, ?_, rfl⟩
        simpa using nests.record.segments property isProperty
      · obtain ⟨less, impossible, -⟩ := nests.inner isProperty isObject
        cases impossible
  | succ depth ih =>
      obtain ⟨property, isProperty, ⟨scalar, -, rfl⟩ | ⟨inner, isObject, isCell⟩⟩ :=
        (mem_flatten nests.record whole).mp member
      · refine ⟨[property.name], by simp, ?_, rfl⟩
        simpa using nests.record.segments property isProperty
      · obtain ⟨less, same, within⟩ := nests.inner isProperty isObject
        cases same
        obtain ⟨rest, -, segments, named⟩ := ih within (whole.nested isProperty isObject) isCell
        refine ⟨property.name :: rest, by simp, ?_, ?_⟩
        · intro step isStep
          rcases List.mem_cons.mp isStep with rfl | isStep
          · exact nests.record.segments property isProperty
          · exact segments step isStep
        · rw [named]
          simp

end Cells

/-! ## Rebuilding -/

/-- Sets one field for each property. -/
def fillFields (values : Property → Value) (properties : List Property) (object : Object) :
    Object :=
  properties.foldl (fun object property => object.set property.name (values property)) object

section Filling

variable {values : Property → Value} {properties : List Property} {object : Object}

theorem fillFields_typeName : (fillFields values properties object).typeName = object.typeName := by
  induction properties generalizing object with
  | nil => rfl
  | cons property rest ih => exact ih

theorem fillFields_sorted (sorted : Entries.Sorted object.fields) :
    Entries.Sorted (fillFields values properties object).fields := by
  induction properties generalizing object with
  | nil => exact sorted
  | cons property rest ih => exact ih sorted.insert

theorem fillFields_other {name : String}
    (others : ∀ property ∈ properties, property.name ≠ name) :
    (fillFields values properties object).get? name = object.get? name := by
  induction properties generalizing object with
  | nil => rfl
  | cons property rest ih =>
      refine (ih fun other member => others other (by simp [member])).trans ?_
      exact Entries.get?_insert_of_ne _ _ (others property (by simp)).symm

theorem fillFields_same {property : Property}
    (distinct : properties.Pairwise fun one other => one.name ≠ other.name)
    (member : property ∈ properties) :
    (fillFields values properties object).get? property.name = some (values property) := by
  induction properties generalizing object with
  | nil => cases member
  | cons first rest ih =>
      obtain ⟨apart, distinct⟩ := List.pairwise_cons.mp distinct
      rcases List.mem_cons.mp member with rfl | member
      · refine (fillFields_other fun other isOther => (apart other isOther).symm).trans ?_
        exact Entries.get?_insert_self _ _ _
      · exact ih distinct member

end Filling

theorem ObjectTypeOf.blank_eq (type : ObjectType) :
    type.blank = fillFields (fun property => property.target.defaultValue) type.properties
      (Object.empty type.name) :=
  rfl

theorem ObjectTypeOf.IsRecord.names_distinct {separator : Char} {type : ObjectType}
    (record : type.IsRecord separator) :
    type.properties.Pairwise fun one other => one.name ≠ other.name := by
  refine record.distinct.imp fun apart same => ?_
  rw [same, Text.equalIgnoringCase_refl] at apart
  cases apart

theorem IsWhole.filled {bindings : Bindings} {separator : Char} {type : ObjectType} {value : Value}
    (record : type.IsRecord separator) (whole : IsWhole bindings type value) :
    (fillFields (fun property => value.field property.name) type.properties type.blank).toValue =
      value := by
  cases whole with
  | @object _ fields sorted names _ _ =>
      have distinct := record.names_distinct
      have typeName : type.blank.typeName = type.name := by
        rw [ObjectTypeOf.blank_eq, fillFields_typeName]
        rfl
      have blankSorted : Entries.Sorted type.blank.fields := by
        rw [ObjectTypeOf.blank_eq]
        exact fillFields_sorted List.Pairwise.nil
      rw [Object.toValue, fillFields_typeName, typeName]
      congr 1
      refine Entries.Sorted.ext (fillFields_sorted blankSorted) sorted fun name => ?_
      by_cases isName : ∃ property ∈ type.properties, property.name = name
      · obtain ⟨property, member, rfl⟩ := isName
        rw [Entries.get?_of_mem sorted (IsWhole.field_mem sorted names member)]
        exact fillFields_same distinct member
      · have others : ∀ property ∈ type.properties, property.name ≠ name := by
          intro property member same
          exact isName ⟨property, member, same⟩
        have missing : Entries.get? name fields = none := by
          cases found : Entries.get? name fields with
          | none => rfl
          | some item =>
              have isField : name ∈ Entries.names fields :=
                List.mem_map_of_mem (Entries.mem_of_get? found)
              exact absurd ((names name).mp isField) isName
        rw [missing]
        refine (fillFields_other others).trans ?_
        rw [ObjectTypeOf.blank_eq]
        exact fillFields_other others

end Unflatten
