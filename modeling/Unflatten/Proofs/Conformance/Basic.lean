import Unflatten.Planning.Strategy
import Unflatten.Proofs.Conversion
import Unflatten.Proofs.Entries
import Unflatten.Proofs.LetterCase

/-!
# Values that conform to targets

A value conforms to a target if it has the form of the target and its members conform to the members
of the target or are left at their defaults. An object carries the name of a type that may stand for
the declared one, and its fields are judged by the properties of that type.

An instance has every property of its type, and a field that bears the name of a property fits the
target of the property. Setting a field to a value that fits keeps an instance, and a constructor
that stores its arguments makes one.
-/

set_option autoImplicit false

namespace Unflatten

/-- A default type of the declared one, or the type of one of its subtype rules. -/
def Replaces (settings : Settings) (declared concrete : ObjectType) : Prop :=
  ∃ own, settings.ofType? declared.name = some own ∧
    (own.default = some concrete ∨ ∃ rule ∈ own.subtypes, rule.target.objectType = concrete)

def StandsFor (settings : Settings) (declared concrete : ObjectType) : Prop :=
  concrete = declared ∨ Replaces settings declared concrete

section Definition

variable (settings : Settings) (bindings : Bindings)

mutual

inductive Conforms : Target → Value → Prop where
  | leaf {target : Target} {leaf : Leaf} {value : Value} (isLeaf : target.leaf? = some leaf)
      (admits : leaf.Admits value) : Conforms target value
  | list {element : Target} {items : List Value}
      (each : ∀ item ∈ items, Conforms element item) :
      Conforms (.list element) (.sequence .list items)
  | sequence {type : SequenceType} {items : List Value}
      (each : ∀ item ∈ items, Conforms type.element item) :
      Conforms (.sequence type) (.sequence .list items)
  | array {element : Target} {items : List Value}
      (each : ∀ item ∈ items, Conforms element item) :
      Conforms (.array element) (.sequence .array items)
  | tuple {slots : List Target} {items : List Value} (length : items.length = slots.length)
      (each : ∀ entry ∈ slots.zip items, Fits entry.1 entry.2) :
      Conforms (.tuple slots) (.sequence .tuple items)
  | map {value : Target} {entries : List (String × Value)}
      (each : ∀ entry ∈ entries, FitsEntry value entry.2) : Conforms (.map value) (.map entries)
  | dictionary {type : DictionaryType} {entries : List (String × Value)}
      (each : ∀ entry ∈ entries, FitsEntry type.value entry.2) :
      Conforms (.dictionary type) (.map entries)
  | object {declared concrete : ObjectType} {fields : List (String × Value)}
      (stands : StandsFor settings declared concrete)
      (present : ∀ property ∈ concrete.properties, ∃ value, (property.name, value) ∈ fields)
      (each : ∀ property ∈ concrete.properties, ∀ field ∈ fields,
        Text.equalIgnoringCase field.1 property.name = true → Fits property.target field.2) :
      Conforms (.object declared) (.object concrete.name fields)
  | reference {ref : Reference} {type : ObjectType} {value : Value}
      (bound : bindings.find? ref = some type) (conforms : Conforms (.object type) value) :
      Conforms (.reference ref) value

/-- A member of a value may be left at its default. -/
inductive Fits : Target → Value → Prop where
  | default {target : Target} : Fits target target.defaultValue
  | conforms {target : Target} {value : Value} (conforms : Conforms target value) :
      Fits target value

/-- An entry of a map of leaves may be the array of all values of a name. -/
inductive FitsEntry : Target → Value → Prop where
  | conforms {target : Target} {value : Value} (conforms : Conforms target value) :
      FitsEntry target value
  | several {target : Target} {items : List Value} (isLeaf : target.isLeaf = true)
      (each : ∀ item ∈ items, Conforms target item) : FitsEntry target (.sequence .array items)

end

/-! ## Types within a target -/

/-- The constructors that instances of the type may come from. -/
def UsableConstructor (type : ObjectType) (constructor : Constructor) : Prop :=
  constructor ∈ type.constructors ∨
    ∃ own, settings.ofType? type.name = some own ∧ own.preferred = some constructor

inductive Within (root : Target) : Target → Prop where
  | root : Within root root
  | list {element : Target} (within : Within root (.list element)) : Within root element
  | sequence {type : SequenceType} (within : Within root (.sequence type)) :
      Within root type.element
  | array {element : Target} (within : Within root (.array element)) : Within root element
  | tuple {slots : List Target} {slot : Target} (within : Within root (.tuple slots))
      (member : slot ∈ slots) : Within root slot
  | map {value : Target} (within : Within root (.map value)) : Within root value
  | dictionary {type : DictionaryType} (within : Within root (.dictionary type)) :
      Within root type.value
  | property {type : ObjectType} {property : Property} (within : Within root (.object type))
      (member : property ∈ type.properties) : Within root property.target
  | parameter {type : ObjectType} {constructor : Constructor} {parameter : Parameter}
      (within : Within root (.object type)) (usable : UsableConstructor settings type constructor)
      (member : parameter ∈ constructor.parameters) : Within root parameter.target
  | standIn {declared concrete : ObjectType} (within : Within root (.object declared))
      (stands : StandsFor settings declared concrete) : Within root (.object concrete)
  | reference {ref : Reference} {type : ObjectType} (within : Within root (.reference ref))
      (bound : bindings.find? ref = some type) : Within root (.object type)

/-- Property names differ by more than case, constructors store their arguments, and a parameter or
a type in place of the declared one gives the properties it shares their declared targets. -/
structure ObjectType.Orderly (settings : Settings) (type : ObjectType) : Prop where
  distinct : type.properties.Pairwise fun one other =>
    Text.equalIgnoringCase one.name other.name = false
  stores : ∀ constructor, UsableConstructor settings type constructor → constructor.body = none
  parameters : ∀ constructor, UsableConstructor settings type constructor →
    ∀ parameter ∈ constructor.parameters, ∀ property ∈ type.properties,
      Text.equalIgnoringCase property.name parameter.name = true →
        parameter.target = property.target
  standIns : ∀ concrete, Replaces settings type concrete →
    ∀ shared ∈ concrete.properties, ∀ property ∈ type.properties,
      Text.equalIgnoringCase shared.name property.name = true → shared.target = property.target

/-- Types, settings and operations as the library makes them by default. -/
structure Orderly (root : Target) : Prop where
  rules : settings.rules = []
  factories : ∀ name own, settings.ofType? name = some own →
    own.factory = none ∧ ∀ rule ∈ own.subtypes, rule.target.factory? = none
  objects : ∀ type, Within settings bindings root (.object type) →
    ObjectType.Orderly settings type
  sequences : ∀ type, Within settings bindings root (.sequence type) →
    type.add = Value.push ∧ ∀ seed, type.seed = some seed → seed = .list []
  dictionaries : ∀ type, Within settings bindings root (.dictionary type) →
    type.insert = Value.insertKey ∧ ∀ seed, type.seed = some seed → seed = .map []

end Definition

/-! ## Bodies of constructors -/

section Bodies

variable {settings : Settings} {type other : ObjectType} {constructor again : Constructor}

/-- The bodies that instances of the type may be built by. -/
def ObjectTypeOf.bodies (settings : Settings) (type : ObjectType) : List InstanceBuilder :=
  (type.constructors ++ ((settings.ofType? type.name).bind TypePolicy.preferred).toList).filterMap
    ConstructorOf.body

/-- The bodies build of the form of the other type what they build of that of the type. -/
def ObjectTypeOf.BuildsAs (settings : Settings) (type other : ObjectType) : Prop :=
  ∀ body ∈ type.bodies settings, ∀ arguments, body other.form arguments = body type.form arguments

theorem ObjectTypeOf.mem_bodies {body : InstanceBuilder}
    (usable : UsableConstructor settings type constructor) (isBody : constructor.body = some body) :
    body ∈ type.bodies settings := by
  refine List.mem_filterMap.mpr ⟨constructor, List.mem_append.mpr ?_, isBody⟩
  exact usable.imp_right fun ⟨own, configured, preferred⟩ => by simp [configured, preferred]

/-- Constructors with one body and parameters of the same names make the same instance of types that
are told apart by no name, no default and no body. -/
theorem ConstructorOf.construct_congr (usable : UsableConstructor settings type constructor)
    (builds : type.BuildsAs settings other) (blank : other.blank = type.blank)
    (properties : ∀ name, (other.property? name).map PropertyOf.name =
      (type.property? name).map PropertyOf.name)
    (body : again.body = constructor.body)
    (parameters : again.parameters.map ParameterOf.name =
      constructor.parameters.map ParameterOf.name) (arguments : List Value) :
    again.construct other arguments = constructor.construct type arguments := by
  unfold ConstructorOf.construct
  rw [body, blank]
  cases isBody : constructor.body with
  | some body => exact builds body (ObjectTypeOf.mem_bodies usable isBody) arguments
  | none =>
      -- The property that an argument is stored in depends on names only.
      have bound (whole : ObjectType) (list : List Parameter) :
          ConstructorOf.bindArguments whole type.blank list arguments =
            ((list.map ParameterOf.name).zip arguments).foldl
              (fun object entry =>
                object.set (((whole.property? entry.1).map PropertyOf.name).getD entry.1) entry.2)
              type.blank := by
        rw [ConstructorOf.bindArguments, List.zip_map_left, List.foldl_map]
        rfl
      dsimp only
      rw [bound, bound, parameters]
      simp only [properties]

end Bodies

/-! ## Instances of object types -/

section Instances

variable {settings : Settings} {bindings : Bindings} {type : ObjectType}

/-- The value is an object of the type whose fields fit the properties that they are named like. -/
structure IsInstance (settings : Settings) (bindings : Bindings) (type : ObjectType)
    (object : Object) : Prop where
  typeName : object.typeName = type.name
  present : ∀ property ∈ type.properties, ∃ value, (property.name, value) ∈ object.fields
  each : ∀ property ∈ type.properties, ∀ field ∈ object.fields,
    Text.equalIgnoringCase field.1 property.name = true →
      Fits settings bindings property.target field.2

theorem IsInstance.conforms {declared : ObjectType} {object : Object}
    (isInstance : IsInstance settings bindings type object)
    (stands : StandsFor settings declared type) :
    Conforms settings bindings (.object declared) object.toValue := by
  obtain ⟨typeName, fields⟩ := object
  obtain ⟨rfl, present, each⟩ := isInstance
  exact Conforms.object stands present each

theorem Conforms.isInstance {declared : ObjectType} {value : Value}
    (conforms : Conforms settings bindings (.object declared) value) :
    ∃ concrete object, StandsFor settings declared concrete ∧ value = object.toValue ∧
      IsInstance settings bindings concrete object := by
  cases conforms with
  | leaf isLeaf => cases isLeaf
  | @object _ concrete fields stands present each =>
      exact ⟨concrete, ⟨concrete.name, fields⟩, stands, rfl, ⟨rfl, present, each⟩⟩

theorem IsInstance.set {object : Object} {name : String} {value : Value}
    (isInstance : IsInstance settings bindings type object)
    (fits : ∀ property ∈ type.properties, Text.equalIgnoringCase name property.name = true →
      Fits settings bindings property.target value) :
    IsInstance settings bindings type (object.set name value) := by
  refine ⟨isInstance.typeName, fun property member => ?_,
    fun property member field isField same => ?_⟩
  · exact Entries.insert_present (Or.inr (isInstance.present property member))
  · rcases Entries.mem_insert isField with rfl | isField
    · exact fits property member same
    · exact isInstance.each property member field isField same

theorem IsInstance.field {object : Object} {name : String} {property : Property}
    (isInstance : IsInstance settings bindings type object) (member : property ∈ type.properties)
    (named : Text.equalIgnoringCase name property.name = true) :
    Fits settings bindings property.target (object.toValue.field name) := by
  unfold Object.toValue Value.field Object.getIgnoringCase?
  simp only []
  cases found : object.fields.get? name with
  | some value =>
      exact isInstance.each property member (name, value) (Entries.mem_of_get? found) named
  | none =>
      simp only []
      cases alike : List.find? (fun field => Text.equalIgnoringCase field.1 name) object.fields with
      | some field =>
          have isField := List.mem_of_find?_eq_some alike
          have matched : Text.equalIgnoringCase field.1 name = true := by
            simpa using List.find?_some alike
          have same := Text.equalIgnoringCase_trans matched named
          exact isInstance.each property member field isField same
      | none =>
          obtain ⟨value, isField⟩ := isInstance.present property member
          have missing := List.find?_eq_none.mp alike (property.name, value) isField
          exact absurd (Text.equalIgnoringCase_symm named) missing

/-! ## Construction -/

theorem ObjectType.Orderly.same_target (orderly : type.Orderly settings)
    {one other : Property} (isOne : one ∈ type.properties) (isOther : other ∈ type.properties)
    (same : Text.equalIgnoringCase one.name other.name = true) : one.target = other.target := by
  rw [PropertyOf.eq_of_distinct orderly.distinct isOne isOther same]

theorem ObjectTypeOf.blank_isInstance (orderly : ObjectType.Orderly settings type) :
    IsInstance settings bindings type type.blank := by
  have stores (properties : List Property) (object : Object)
      (typeName : object.typeName = type.name)
      (within : ∀ property ∈ properties, property ∈ type.properties)
      (present : ∀ property ∈ type.properties, property ∈ properties ∨
        ∃ value, (property.name, value) ∈ object.fields)
      (each : ∀ property ∈ type.properties, ∀ field ∈ object.fields,
        Text.equalIgnoringCase field.1 property.name = true →
          Fits settings bindings property.target field.2) :
      IsInstance settings bindings type
        (properties.foldl
          (fun object property => object.set property.name property.target.defaultValue)
          object) := by
    induction properties generalizing object with
    | nil =>
        refine ⟨typeName, fun property member => ?_, each⟩
        exact (present property member).resolve_left (by simp)
    | cons first rest ih =>
        rw [List.foldl_cons]
        have isFirst := within first (by simp)
        refine ih _ typeName (fun property member => within property (by simp [member]))
          (fun property member => ?_) (fun property member field isField same => ?_)
        · rcases present property member with isNew | ⟨value, isField⟩
          · rcases List.mem_cons.mp isNew with rfl | later
            · exact Or.inr (Entries.insert_present (Or.inl rfl))
            · exact Or.inl later
          · exact Or.inr (Entries.insert_present (Or.inr ⟨value, isField⟩))
        · rcases Entries.mem_insert isField with rfl | isField
          · rw [orderly.same_target isFirst member same]
            exact Fits.default
          · exact each property member field isField same
  exact stores type.properties (Object.empty type.name) rfl (fun _ member => member)
    (fun _ member => Or.inl member) (by simp [Object.empty])

theorem construct_isInstance {constructor : Constructor} {arguments : List Value}
    (orderly : type.Orderly settings) (usable : UsableConstructor settings type constructor)
    (fits : ∀ entry ∈ constructor.parameters.zip arguments,
      Fits settings bindings entry.1.target entry.2) :
    IsInstance settings bindings type (constructor.construct type arguments) := by
  have binds (entries : List (Parameter × Value)) (object : Object)
      (within : ∀ entry ∈ entries, entry ∈ constructor.parameters.zip arguments)
      (isInstance : IsInstance settings bindings type object) :
      IsInstance settings bindings type
        (entries.foldl
          (fun object entry =>
            object.set (((type.property? entry.1.name).map PropertyOf.name).getD entry.1.name)
              entry.2)
          object) := by
    induction entries generalizing object with
    | nil => exact isInstance
    | cons entry rest ih =>
        rw [List.foldl_cons]
        have isEntry := within entry (by simp)
        refine ih _ (fun other member => within other (by simp [member]))
          (isInstance.set fun property member named => ?_)
        have alike : Text.equalIgnoringCase property.name entry.1.name = true := by
          cases found : type.property? entry.1.name with
          | none =>
              rw [found] at named
              exact Text.equalIgnoringCase_symm named
          | some stored =>
              rw [found] at named
              have stores := List.find?_some found
              exact Text.equalIgnoringCase_trans (Text.equalIgnoringCase_symm named) stores
        have isParameter : entry.1 ∈ constructor.parameters := (List.of_mem_zip isEntry).1
        rw [← orderly.parameters constructor usable entry.1 isParameter property member alike]
        exact fits entry isEntry
  unfold ConstructorOf.construct
  rw [orderly.stores constructor usable]
  exact binds _ _ (fun _ member => member) (ObjectTypeOf.blank_isInstance orderly)

end Instances

end Unflatten
