import Unflatten.Proofs.Flattening.Flatten
import Unflatten.Proofs.Program.Outcomes

/-!
# Instances of flat types

A flat type has leaves for properties, and the columns of a header give each of them a cell.
`reached?` is the instance in which the properties of some names have got their cells and the others
still have their defaults. It does not matter in which order, or whether a constructor or an
assignment puts a cell in its place.
-/

set_option autoImplicit false

namespace Unflatten

def Header.named? (header : Header) (name : String) : Option HeaderColumn :=
  List.find? (fun column => column.folded == foldName name) header

/-- The converted cell of the column that bears the name of a leaf, or the default of the leaf
without such a column. It is `none` if the conversion fails. -/
def Header.cell? (header : Header) (rules : List ConversionRule) (row : Row) (name : String)
    (target : Target) : Option Value :=
  match target.leaf?, header.named? name with
  | some leaf, some column =>
    (readColumn row ⟨column.index, column.name⟩
      (Conversion.select rules leaf column.type)).toOption
  | _, _ => some target.defaultValue

def Header.cells (header : Header) (rules : List ConversionRule) (row : Row) (property : Property) :
    Option Value :=
  header.cell? rules row property.name property.target

/-- All properties can be set from one column each. -/
structure ObjectTypeOf.IsFlat (type : ObjectType) : Prop where
  isConcrete : type.isAbstract = false
  leaves : ∀ property ∈ type.properties, property.target.isLeaf = true
  assignable : ∀ property ∈ type.properties, property.isAssignable = true
  noSinks : ∀ property ∈ type.properties, property.isSink = false
  distinct : type.properties.Pairwise fun one other => foldName one.name ≠ foldName other.name

namespace ObjectTypeOf

/-- The properties of these names have their cells, the others their defaults. -/
def partly (type : ObjectType) (cells : Property → Option Value) (names : List String) : Object :=
  fillFields
    (fun property =>
      if foldName property.name ∈ names then (cells property).getD .null
      else property.target.defaultValue)
    type.properties (Object.empty type.name)

/-- It is `none` if one of the cells cannot be converted. -/
def reached? (type : ObjectType) (cells : Property → Option Value) (names : List String) :
    Option Object :=
  if ∀ property ∈ type.properties, foldName property.name ∈ names → (cells property).isSome = true
  then some (type.partly cells names)
  else none

end ObjectTypeOf

theorem fillFields_congr {values others : Property → Value} {properties : List Property}
    {object : Object} (same : ∀ property ∈ properties, values property = others property) :
    fillFields values properties object = fillFields others properties object := by
  induction properties generalizing object with
  | nil => rfl
  | cons property rest ih =>
      have here := same property (by simp)
      have later : ∀ other ∈ rest, values other = others other := by
        intro other member
        exact same other (by simp [member])
      simp only [fillFields, List.foldl_cons, here]
      exact ih later

namespace ObjectTypeOf

variable {type : ObjectType} {cells : Property → Option Value} {names others : List String}
variable {property other : Property} {value : Value}

/-! ## Flat types -/

theorem IsFlat.same (flat : type.IsFlat) (isOne : property ∈ type.properties)
    (isOther : other ∈ type.properties)
    (folded : foldName property.name = foldName other.name) : property = other := by
  by_cases identical : property = other
  · exact identical
  · have apart : Std.Symm fun one other : Property => foldName one.name ≠ foldName other.name :=
      ⟨fun _ _ differs => Ne.symm differs⟩
    exact absurd folded (flat.distinct.forall isOne isOther identical)

theorem IsFlat.names_distinct (flat : type.IsFlat) :
    type.properties.Pairwise fun one other => one.name ≠ other.name := by
  refine flat.distinct.imp fun apart same => apart ?_
  rw [same]

theorem IsFlat.property?_shared (flat : type.IsFlat) {name : String}
    (member : property ∈ type.properties)
    (shared : Text.equalIgnoringCase property.name name = true) :
    type.property? name = some property := by
  unfold property?
  cases found : type.properties.find? fun property => Text.equalIgnoringCase property.name name with
  | none =>
      have differs := List.find?_eq_none.mp found property member
      exact absurd shared differs
  | some other =>
      have alsoShared : Text.equalIgnoringCase other.name name = true := by
        simpa using List.find?_some found
      have folded : foldName other.name = foldName property.name :=
        (foldName_congr alsoShared).trans (foldName_congr shared).symm
      rw [flat.same (List.mem_of_find?_eq_some found) member folded]

/-! ## Partly filled instances -/

theorem partly_nil : type.partly cells [] = type.blank := by
  rw [blank_eq]
  exact fillFields_congr fun _ _ => by simp

theorem partly_congr
    (same : ∀ property ∈ type.properties,
      foldName property.name ∈ names ↔ foldName property.name ∈ others) :
    type.partly cells names = type.partly cells others := by
  apply fillFields_congr
  intro property member
  simp only [same property member]

theorem reached?_nil : type.reached? cells [] = some type.blank := by
  rw [reached?, if_pos (by simp), partly_nil]

theorem reached?_congr
    (same : ∀ property ∈ type.properties,
      foldName property.name ∈ names ↔ foldName property.name ∈ others) :
    type.reached? cells names = type.reached? cells others := by
  have holds : (∀ property ∈ type.properties,
        foldName property.name ∈ names → (cells property).isSome = true) ↔
      ∀ property ∈ type.properties,
        foldName property.name ∈ others → (cells property).isSome = true := by
    refine forall₂_congr fun property member => ?_
    rw [same property member]
  rw [reached?, reached?, partly_congr same]
  simp only [holds]

theorem reached?_middle {name : String} :
    type.reached? cells (name :: (others ++ names)) =
      type.reached? cells (others ++ name :: names) :=
  reached?_congr fun _ _ => List.perm_middle.symm.mem_iff

theorem reached?_none (more : ∀ name ∈ names, name ∈ others)
    (failed : type.reached? cells names = none) : type.reached? cells others = none := by
  unfold reached? at failed ⊢
  by_cases holds : ∀ property ∈ type.properties,
      foldName property.name ∈ others → (cells property).isSome = true
  · rw [if_pos fun property member known => holds property member (more _ known)] at failed
    cases failed
  · rw [if_neg holds]

theorem partly_set (flat : type.IsFlat) (member : property ∈ type.properties)
    (isCell : cells property = some value) :
    (type.partly cells names).set property.name value =
      type.partly cells (foldName property.name :: names) := by
  have distinct := flat.names_distinct
  have sorted {names : List String} : Entries.Sorted (type.partly cells names).fields :=
    fillFields_sorted List.Pairwise.nil
  have fields : ((type.partly cells names).set property.name value).fields =
      (type.partly cells (foldName property.name :: names)).fields := by
    apply Entries.Sorted.ext sorted.insert sorted
    intro name
    by_cases here : name = property.name
    · subst here
      refine (Entries.get?_insert_self _ _ _).trans ?_
      refine Eq.trans ?_ (fillFields_same distinct member).symm
      simp [isCell]
    · refine (Entries.get?_insert_of_ne _ _ here).trans ?_
      by_cases isName : ∃ other ∈ type.properties, other.name = name
      · obtain ⟨other, isOther, rfl⟩ := isName
        have apart : foldName other.name ≠ foldName property.name := by
          intro folded
          exact here (by rw [flat.same isOther member folded])
        refine (fillFields_same distinct isOther).trans ?_
        refine Eq.trans ?_ (fillFields_same distinct isOther).symm
        simp [apart]
      · have missing : ∀ other ∈ type.properties, other.name ≠ name := by
          intro other isOther same
          exact isName ⟨other, isOther, same⟩
        exact (fillFields_other missing).trans (fillFields_other missing).symm
  have typeName : ((type.partly cells names).set property.name value).typeName =
      (type.partly cells (foldName property.name :: names)).typeName :=
    (@fillFields_typeName _ type.properties _).trans (@fillFields_typeName _ type.properties _).symm
  cases isSet : (type.partly cells names).set property.name value with
  | mk setName setFields =>
      cases isPart : type.partly cells (foldName property.name :: names) with
      | mk partName partFields =>
          rw [isSet, isPart] at fields typeName
          simp only at fields typeName
          rw [fields, typeName]

theorem reached?_cons (flat : type.IsFlat) (member : property ∈ type.properties) :
    type.reached? cells (foldName property.name :: names) =
      (type.reached? cells names).bind fun object =>
        (cells property).map fun value => object.set property.name value := by
  have holds : (∀ other ∈ type.properties,
        foldName other.name ∈ foldName property.name :: names → (cells other).isSome = true) ↔
      (cells property).isSome = true ∧ ∀ other ∈ type.properties,
        foldName other.name ∈ names → (cells other).isSome = true := by
    constructor
    · intro all
      refine ⟨all property member (by simp), fun other isOther known => ?_⟩
      exact all other isOther (by simp [known])
    · rintro ⟨here, later⟩ other isOther known
      rcases List.mem_cons.mp known with folded | known
      · rw [flat.same isOther member folded]
        exact here
      · exact later other isOther known
  rw [reached?, reached?]
  simp only [holds]
  cases isCell : cells property with
  | none => simp
  | some value =>
      by_cases later : ∀ other ∈ type.properties,
          foldName other.name ∈ names → (cells other).isSome = true
      · rw [if_pos ⟨rfl, later⟩, if_pos later, ← partly_set flat member isCell]
        rfl
      · rw [if_neg fun both => later both.2, if_neg later]
        rfl

theorem reached?_known (known : foldName property.name ∈ names) :
    type.reached? cells (foldName property.name :: names) = type.reached? cells names := by
  apply reached?_congr
  intro other _
  constructor
  · intro isName
    rcases List.mem_cons.mp isName with folded | isName
    · rwa [folded]
    · exact isName
  · exact List.mem_cons_of_mem _

theorem reached?_default (flat : type.IsFlat) (member : property ∈ type.properties)
    (unknown : foldName property.name ∉ names)
    (isDefault : cells property = some property.target.defaultValue) :
    type.reached? cells (foldName property.name :: names) = type.reached? cells names := by
  rw [reached?_cons flat member, isDefault, reached?]
  split
  · rw [Option.bind_some, Option.map_some, partly_set flat member isDefault]
    congr 1
    apply fillFields_congr
    intro other isOther
    by_cases same : foldName other.name = foldName property.name
    · obtain rfl := flat.same isOther member same
      simp [unknown, isDefault]
    · simp [same]
  · rfl

end ObjectTypeOf

/-! ## Arguments -/

section Arguments

variable {header : Header} {rules : List ConversionRule} {row : Row} {type : ObjectType}

/-- The parameter is for this property: a name that may be written in another case, and the same
target. -/
def ParameterOf.IsFor (parameter : Parameter) (property : Property) : Prop :=
  Text.equalIgnoringCase property.name parameter.name = true ∧ property.target = parameter.target

theorem ParameterOf.IsFor.folded {parameter : Parameter} {property : Property}
    (isFor : parameter.IsFor property) : foldName property.name = foldName parameter.name :=
  foldName_congr isFor.1

theorem ParameterOf.IsFor.cell {parameter : Parameter} {property : Property}
    (isFor : parameter.IsFor property) :
    header.cell? rules row parameter.name parameter.target = header.cells rules row property := by
  unfold Header.cells Header.cell? Header.named?
  rw [isFor.folded, isFor.2]

/-- A constructor without a body of its own whose parameters are all for properties, one for each. A
parameter that is no sink may do without a column. -/
structure ConstructorOf.Fills (constructor : Constructor) (type : ObjectType) (header : Header) :
    Prop where
  stores : constructor.body = none
  areFor : ∀ parameter ∈ constructor.parameters, ∃ property ∈ type.properties,
    parameter.IsFor property
  typed : ∀ parameter ∈ constructor.parameters, parameter.target.isAny = false
  sinks : ∀ parameter ∈ constructor.parameters, parameter.isSink = true →
    (header.named? parameter.name).isSome = true
  distinct : constructor.parameters.Pairwise fun one other =>
    foldName one.name ≠ foldName other.name

namespace ConstructorOf.Fills

variable {constructor : Constructor}

theorem leaf (fills : constructor.Fills type header) (flat : type.IsFlat) {parameter : Parameter}
    (member : parameter ∈ constructor.parameters) : parameter.target.isLeaf = true := by
  obtain ⟨property, isProperty, isFor⟩ := fills.areFor parameter member
  rw [← isFor.2]
  exact flat.leaves property isProperty

theorem typed_property (fills : constructor.Fills type header) (flat : type.IsFlat)
    {property : Property} (isProperty : property ∈ type.properties)
    (bound : foldName property.name ∈
      constructor.parameters.map fun parameter => foldName parameter.name) :
    property.target.isAny = false := by
  obtain ⟨parameter, member, folded⟩ := List.mem_map.mp bound
  obtain ⟨other, isOther, isFor⟩ := fills.areFor parameter member
  rw [← flat.same isOther isProperty (isFor.folded.trans folded), isFor.2]
  exact fills.typed parameter member

end ConstructorOf.Fills

theorem ObjectTypeOf.IsFlat.bindArguments (flat : type.IsFlat) {parameters : List Parameter}
    (areFor : ∀ parameter ∈ parameters, ∃ property ∈ type.properties, parameter.IsFor property)
    (names : List String) :
    ((type.reached? (header.cells rules row) names).bind fun object =>
        (gathered (parameters.map fun parameter =>
            header.cell? rules row parameter.name parameter.target)).map fun values =>
          ConstructorOf.bindArguments type object parameters values) =
      type.reached? (header.cells rules row)
        (parameters.map (fun parameter => foldName parameter.name) ++ names) := by
  induction parameters generalizing names with
  | nil => simp [gathered, ConstructorOf.bindArguments]
  | cons parameter rest ih =>
      obtain ⟨property, member, isFor⟩ := areFor parameter (by simp)
      have others : ∀ parameter ∈ rest, ∃ property ∈ type.properties, parameter.IsFor property := by
        intro other isOther
        exact areFor other (by simp [isOther])
      have found : type.property? parameter.name = some property :=
        flat.property?_shared member isFor.1
      have order : type.reached? (header.cells rules row)
            ((parameter :: rest).map (fun parameter => foldName parameter.name) ++ names) =
          type.reached? (header.cells rules row)
            (rest.map (fun parameter => foldName parameter.name) ++
              foldName property.name :: names) := by
        rw [isFor.folded]
        exact reached?_middle
      rw [order, ← ih others, reached?_cons flat member, List.map_cons, gathered, isFor.cell]
      cases type.reached? (header.cells rules row) names with
      | none => rfl
      | some object =>
          cases header.cells rules row property with
          | none => rfl
          | some value =>
              simp only [Option.bind_some, Option.map_some, Option.map_map]
              congr 1
              funext values
              simp [ConstructorOf.bindArguments, found]

end Arguments

end Unflatten
