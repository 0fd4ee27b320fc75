import Unflatten.Value.Basic

/-!
# Targets

A target says what a row is turned into. Enumerations, objects, sequences and dictionaries are
described by descriptors, each with an identity of its own: two descriptors of one name and one
content are still two types. A reference stands for an object type that is described later;
`Bindings` holds the object types that references have been bound to.
-/

set_option autoImplicit false

namespace Unflatten

structure EnumType where
  ident : Nat
  name : String
  variants : List (String × FixedInt .int64)

namespace EnumType

def member (type : EnumType) (name : Option String) (value : FixedInt .int64) : EnumMember :=
  ⟨type.name, name, value⟩

/-- The first variant of the name, blanks around it and ASCII case aside. -/
def memberNamed? (type : EnumType) (text : String) : Option EnumMember :=
  (type.variants.find? fun variant => Text.equalIgnoringCase variant.1 (Text.trim text)).map
    fun variant => type.member (some variant.1) variant.2

def memberOf (type : EnumType) (value : FixedInt .int64) : EnumMember :=
  type.member ((type.variants.find? fun variant => variant.2 == value).map Prod.fst) value

end EnumType

structure PropertyOf (τ : Type) where
  name : String
  target : τ
  isPublic : Bool := true
  isReadable : Bool := true
  isWritable : Bool := true
  isSink : Bool := false

structure ParameterOf (τ : Type) where
  name : String
  target : τ
  isSink : Bool := false

structure Reference where
  ident : Nat
  name : String
  deriving DecidableEq

/-! ## Forms

A form is what can be read in the description of a type: the names, the flags and the targets of
its members, with references as such. Functions in the description and identities are no part of
it, and neither is what a reference is bound to. -/

structure ConstructorForm (τ : Type) where
  owner : String
  isPublic : Bool
  isStatic : Bool
  parameters : List (ParameterOf τ)

structure ObjectForm (τ : Type) where
  name : String
  isAbstract : Bool
  properties : List (PropertyOf τ)
  constructors : List (ConstructorForm τ)

inductive TargetForm where
  | scalar (type : ScalarType)
  | nullable (inner : TargetForm)
  | enum (type : EnumType)
  | any
  | dynamic
  | object (type : ObjectForm TargetForm)
  | reference (ref : Reference)
  | list (element : TargetForm)
  | sequence (name : String) (element : TargetForm)
  | map (value : TargetForm)
  | dictionary (name : String) (value : TargetForm)
  | array (element : TargetForm)
  | tuple (slots : List TargetForm)

/-- Builds an instance of the type that it is given the form of, from the arguments. -/
abbrev InstanceBuilder := ObjectForm TargetForm → List Value → Object

/-! ## Descriptors -/

structure ConstructorOf (τ : Type) where
  ident : Nat
  owner : String
  isPublic : Bool := true
  isStatic : Bool := false
  parameters : List (ParameterOf τ)
  body : Option InstanceBuilder := none

structure ObjectTypeOf (τ : Type) where
  ident : Nat
  name : String
  isAbstract : Bool := false
  properties : List (PropertyOf τ)
  constructors : List (ConstructorOf τ)

/-- `seed` is the instance that a new sequence starts from, if the type can make one. -/
structure SequenceTypeOf (τ : Type) where
  ident : Nat
  name : String
  element : τ
  seed : Option Value
  add : Value → Value → Value

structure DictionaryTypeOf (τ : Type) where
  ident : Nat
  name : String
  value : τ
  seed : Option Value
  insert : Value → String → Value → Value

inductive Target where
  | scalar (type : ScalarType)
  | nullable (inner : Target)
  | enum (type : EnumType)
  | any
  | dynamic
  | object (type : ObjectTypeOf Target)
  | reference (ref : Reference)
  | list (element : Target)
  | sequence (type : SequenceTypeOf Target)
  | map (value : Target)
  | dictionary (type : DictionaryTypeOf Target)
  | array (element : Target)
  | tuple (slots : List Target)

instance : Inhabited Target := ⟨.any⟩

abbrev Property := PropertyOf Target
abbrev Parameter := ParameterOf Target
abbrev Constructor := ConstructorOf Target
abbrev ObjectType := ObjectTypeOf Target
abbrev SequenceType := SequenceTypeOf Target
abbrev DictionaryType := DictionaryTypeOf Target

def greatestArity : Nat := 7

mutual

def Target.form : Target → TargetForm
  | .scalar type => .scalar type
  | .nullable inner => .nullable inner.form
  | .enum type => .enum type
  | .any => .any
  | .dynamic => .dynamic
  | .object type => .object type.form
  | .reference ref => .reference ref
  | .list element => .list element.form
  | .sequence ⟨_, name, element, _, _⟩ => .sequence name element.form
  | .map value => .map value.form
  | .dictionary ⟨_, name, value, _, _⟩ => .dictionary name value.form
  | .array element => .array element.form
  | .tuple slots => .tuple (slotForms slots)

def ObjectTypeOf.form : ObjectTypeOf Target → ObjectForm TargetForm
  | ⟨_, name, isAbstract, properties, constructors⟩ =>
    ⟨name, isAbstract, propertyForms properties, constructorForms constructors⟩

def propertyForms : List (PropertyOf Target) → List (PropertyOf TargetForm)
  | [] => []
  | ⟨name, target, isPublic, isReadable, isWritable, isSink⟩ :: rest =>
    ⟨name, target.form, isPublic, isReadable, isWritable, isSink⟩ :: propertyForms rest

def constructorForms : List (ConstructorOf Target) → List (ConstructorForm TargetForm)
  | [] => []
  | ⟨_, owner, isPublic, isStatic, parameters, _⟩ :: rest =>
    ⟨owner, isPublic, isStatic, parameterForms parameters⟩ :: constructorForms rest

def parameterForms : List (ParameterOf Target) → List (ParameterOf TargetForm)
  | [] => []
  | ⟨name, target, isSink⟩ :: rest => ⟨name, target.form, isSink⟩ :: parameterForms rest

def slotForms : List Target → List TargetForm
  | [] => []
  | slot :: rest => slot.form :: slotForms rest

end

/-! ## Leaves -/

inductive LeafKind where
  | scalar (type : ScalarType)
  | enum (type : EnumType)
  | any

structure Leaf where
  kind : LeafKind
  nullable : Bool

namespace Leaf

def scalarType? (leaf : Leaf) : Option ScalarType :=
  match leaf.kind with
  | .scalar type => some type
  | _ => none

def enumType? (leaf : Leaf) : Option EnumType :=
  match leaf.kind with
  | .enum type => some type
  | _ => none

def isAny (leaf : Leaf) : Bool :=
  match leaf.kind with
  | .any => true
  | _ => false

def defaultValue (leaf : Leaf) : Value :=
  if leaf.nullable then .null
  else
    match leaf.kind with
    | .scalar type => type.defaultValue
    | .enum type => .enum (type.memberOf (FixedInt.zero .int64))
    | .any => .null

def describe (leaf : Leaf) : String :=
  let base :=
    match leaf.kind with
    | .scalar type => type.name
    | .enum type => type.name
    | .any => "any"
  if leaf.nullable then base ++ "?" else base

end Leaf

namespace Target

def leaf? : Target → Option Leaf
  | scalar type => some ⟨.scalar type, false⟩
  | enum type => some ⟨.enum type, false⟩
  | any => some ⟨.any, true⟩
  | dynamic => some ⟨.any, true⟩
  | nullable inner =>
    match leaf? inner with
    | some leaf => some { leaf with nullable := true }
    | none => none
  | _ => none

def isLeaf (target : Target) : Bool :=
  target.leaf?.isSome

def isAny : Target → Bool
  | any => true
  | dynamic => true
  | _ => false

def defaultValue (target : Target) : Value :=
  match target.leaf? with
  | some leaf => leaf.defaultValue
  | none => .null

mutual

def typeName : Target → String
  | scalar type => type.name
  | nullable inner => typeName inner ++ "?"
  | enum type => type.name
  | any => "any"
  | dynamic => "dynamic"
  | object type => type.name
  | reference ref => ref.name
  | list element => "list<" ++ typeName element ++ ">"
  | sequence type => type.name
  | map value => "map<" ++ typeName value ++ ">"
  | dictionary type => type.name
  | array element => "array<" ++ typeName element ++ ">"
  | tuple slots => "tuple<" ++ Text.join "," (typeNames slots) ++ ">"

def typeNames : List Target → List String
  | [] => []
  | slot :: rest => typeName slot :: typeNames rest

end

end Target

namespace PropertyOf

/-- Only these properties are set from columns. -/
def isAssignable {τ : Type} (property : PropertyOf τ) : Bool :=
  property.isPublic && property.isReadable && property.isWritable

end PropertyOf

namespace TargetForm

def leaf? : TargetForm → Option Leaf
  | scalar type => some ⟨.scalar type, false⟩
  | enum type => some ⟨.enum type, false⟩
  | any => some ⟨.any, true⟩
  | dynamic => some ⟨.any, true⟩
  | nullable inner =>
    match leaf? inner with
    | some leaf => some { leaf with nullable := true }
    | none => none
  | _ => none

def defaultValue (target : TargetForm) : Value :=
  match target.leaf? with
  | some leaf => leaf.defaultValue
  | none => .null

end TargetForm

def ObjectForm.blank (type : ObjectForm TargetForm) : Object :=
  type.properties.foldl (fun object property => object.set property.name property.target.defaultValue)
    (Object.empty type.name)

namespace ObjectTypeOf

/-- The first property of the name, ASCII case aside. -/
def property? {τ : Type} (type : ObjectTypeOf τ) (name : String) : Option (PropertyOf τ) :=
  type.properties.find? fun property => Text.equalIgnoringCase property.name name

def blank (type : ObjectType) : Object :=
  type.properties.foldl (fun object property => object.set property.name property.target.defaultValue)
    (Object.empty type.name)

/-- A concrete type without constructors gets a public one without parameters. The constructors
that name no owner belong to the type. -/
def declare (ident : Nat) (name : String) (isAbstract : Bool) (properties : List Property)
    (implicit : Nat) (constructors : List Constructor) : ObjectType :=
  let declared :=
    if constructors.isEmpty && !isAbstract then [⟨implicit, name, true, false, [], none⟩]
    else constructors
  { ident, name, isAbstract, properties
    constructors := declared.map fun constructor =>
      if constructor.owner.isEmpty then { constructor with owner := name } else constructor }

end ObjectTypeOf

namespace ConstructorOf

def signature (constructor : Constructor) : String :=
  let parameters := constructor.parameters.map fun parameter =>
    parameter.name ++ ": " ++ parameter.target.typeName
  constructor.owner ++ "(" ++ Text.join ", " parameters ++ ")"

def bindArguments (type : ObjectType) (blank : Object) (parameters : List Parameter)
    (arguments : List Value) : Object :=
  (parameters.zip arguments).foldl
    (fun object entry =>
      object.set (((type.property? entry.1.name).map PropertyOf.name).getD entry.1.name) entry.2)
    blank

def construct (constructor : Constructor) (type : ObjectType) (arguments : List Value) : Object :=
  match constructor.body with
  | some body => body type.form arguments
  | none => bindArguments type type.blank constructor.parameters arguments

end ConstructorOf

/-! ## Sequences and dictionaries -/

namespace Value

/-- Appends to a list or an array; other values stay as they are. -/
def push (target item : Value) : Value :=
  match target with
  | sequence .list items => sequence .list (items ++ [item])
  | sequence .array items => sequence .array (items ++ [item])
  | other => other

def pushFront (target item : Value) : Value :=
  match target with
  | sequence .list items => sequence .list (item :: items)
  | other => other

/-- Puts the item before the first greater number of a list. An item without a number is smaller
than any number. -/
def pushSorted (target item : Value) : Value :=
  let isGreater := fun (other : Value) =>
    match other.asInt?, item.asInt? with
    | some there, some here => here < there
    | some _, none => true
    | none, _ => false
  match target with
  | sequence .list items =>
    let before := items.takeWhile fun other => !isGreater other
    sequence .list (before ++ item :: items.drop before.length)
  | other => other

def insertKey (target : Value) (key : String) (item : Value) : Value :=
  match target with
  | map entries => map (Entries.insert key item entries)
  | other => other

def insertUpperKey (target : Value) (key : String) (item : Value) : Value :=
  target.insertKey (Text.upper key) item

end Value

namespace SequenceTypeOf

def declare (ident : Nat) (name : String) (element : Target) : SequenceType :=
  { ident, name, element, seed := some (.list []), add := Value.push }

end SequenceTypeOf

namespace DictionaryTypeOf

def declare (ident : Nat) (name : String) (value : Target) : DictionaryType :=
  { ident, name, value, seed := some (.map []), insert := Value.insertKey }

end DictionaryTypeOf

/-! ## References -/

abbrev Bindings := List (Nat × ObjectType)

namespace Bindings

def find? (bindings : Bindings) (ref : Reference) : Option ObjectType :=
  bindings.lookup ref.ident

end Bindings

inductive BindFault where
  | otherName (reference type : String)
  | alreadyBound (reference : String)
  deriving DecidableEq, Repr

def BindFault.message : BindFault → String
  | otherName reference type =>
    "Reference to '" ++ reference ++ "' cannot be bound to type '" ++ type ++ "'"
  | alreadyBound reference => "Reference to '" ++ reference ++ "' is already bound"

namespace Reference

/-- A reference is bound once, to a type of its own name. -/
def bind (ref : Reference) (type : ObjectType) (bindings : Bindings) :
    Except BindFault Bindings :=
  if !Text.equalIgnoringCase type.name ref.name then .error (.otherName ref.name type.name)
  else
    match bindings.find? ref with
    | some _ => .error (.alreadyBound ref.name)
    | none => .ok ((ref.ident, type) :: bindings)

end Reference

namespace Target

/-- A bound reference is replaced by its object type. -/
def resolve (bindings : Bindings) : Target → Target
  | reference ref =>
    match bindings.find? ref with
    | some type => object type
    | none => reference ref
  | other => other

end Target

end Unflatten
