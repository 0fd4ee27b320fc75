import Unflatten.ConstructorChoice
import Unflatten.Proofs.Conformance.Basic
import Unflatten.Proofs.Keys.Reach

/-!
# Counterparts

Two targets are counterparts under a relation if they look the same from outside and what they are
made of is related. A relation unfolds if related targets are counterparts once references have been
replaced by the types they are bound to: it may relate a type to itself written in another way, with
a reference here and the type in full there.
-/

set_option autoImplicit false

namespace Unflatten

theorem map_eq_of_forall₂ {α β γ : Type} {related : α → β → Prop} {entries : List α}
    {others : List β} (each : List.Forall₂ related entries others) {left : α → γ} {right : β → γ}
    (same : ∀ one other, related one other → right other = left one) :
    others.map right = entries.map left := by
  induction each with
  | nil => rfl
  | cons first rest ih => rw [List.map_cons, List.map_cons, same _ _ first, ih]

variable (related : Target → Target → Prop)

structure PropertyOf.Counterpart (property other : Property) : Prop where
  name : other.name = property.name
  target : related property.target other.target
  isPublic : other.isPublic = property.isPublic
  isReadable : other.isReadable = property.isReadable
  isWritable : other.isWritable = property.isWritable
  isSink : other.isSink = property.isSink

structure ParameterOf.Counterpart (parameter other : Parameter) : Prop where
  name : other.name = parameter.name
  target : related parameter.target other.target
  isSink : other.isSink = parameter.isSink

structure ConstructorOf.Counterpart (constructor other : Constructor) : Prop where
  isPublic : other.isPublic = constructor.isPublic
  isStatic : other.isStatic = constructor.isStatic
  parameters : List.Forall₂ (ParameterOf.Counterpart related) constructor.parameters
    other.parameters
  body : other.body = constructor.body

/-- Identities are not compared. -/
structure ObjectTypeOf.Counterpart (settings : Settings) (type other : ObjectType) : Prop where
  name : other.name = type.name
  isAbstract : other.isAbstract = type.isAbstract
  properties : List.Forall₂ (PropertyOf.Counterpart related) type.properties other.properties
  constructors : List.Forall₂ (ConstructorOf.Counterpart related) type.constructors
    other.constructors
  builds : type.BuildsAs settings other

structure SequenceTypeOf.Counterpart (type other : SequenceType) : Prop where
  name : other.name = type.name
  element : related type.element other.element
  seed : other.seed = type.seed
  add : other.add = type.add

structure DictionaryTypeOf.Counterpart (type other : DictionaryType) : Prop where
  name : other.name = type.name
  value : related type.value other.value
  seed : other.seed = type.seed
  insert : other.insert = type.insert

inductive Target.Counterpart (settings : Settings) : Target → Target → Prop where
  | scalar (type : ScalarType) : Counterpart settings (.scalar type) (.scalar type)
  | nullable {inner other : Target} (same : related inner other) :
      Counterpart settings (.nullable inner) (.nullable other)
  | enum (type : EnumType) : Counterpart settings (.enum type) (.enum type)
  | any : Counterpart settings .any .any
  | dynamic : Counterpart settings .dynamic .dynamic
  | object {type other : ObjectType}
      (same : ObjectTypeOf.Counterpart related settings type other) :
      Counterpart settings (.object type) (.object other)
  | reference (ref : Reference) : Counterpart settings (.reference ref) (.reference ref)
  | list {element other : Target} (same : related element other) :
      Counterpart settings (.list element) (.list other)
  | sequence {type other : SequenceType} (same : SequenceTypeOf.Counterpart related type other) :
      Counterpart settings (.sequence type) (.sequence other)
  | map {value other : Target} (same : related value other) :
      Counterpart settings (.map value) (.map other)
  | dictionary {type other : DictionaryType}
      (same : DictionaryTypeOf.Counterpart related type other) :
      Counterpart settings (.dictionary type) (.dictionary other)
  | array {element other : Target} (same : related element other) :
      Counterpart settings (.array element) (.array other)
  | tuple {slots others : List Target} (same : List.Forall₂ related slots others) :
      Counterpart settings (.tuple slots) (.tuple others)

/-- Related targets are counterparts once they are resolved, each under its own bindings, and every
target is related to itself. -/
structure Unfolds (settings : Settings) (bindings later : Bindings) : Prop where
  refl : ∀ target, related target target
  step : ∀ one other, related one other →
    Target.Counterpart related settings (one.resolve bindings) (other.resolve later)

variable {related} {settings : Settings}

section Reflexive

variable (reflexive : ∀ target, related target target)
include reflexive

theorem ParameterOf.Counterpart.refl (parameter : Parameter) :
    ParameterOf.Counterpart related parameter parameter :=
  ⟨rfl, reflexive parameter.target, rfl⟩

theorem ConstructorOf.Counterpart.refl (constructor : Constructor) :
    ConstructorOf.Counterpart related constructor constructor :=
  ⟨rfl, rfl,
    List.forall₂_same.mpr fun parameter _ => ParameterOf.Counterpart.refl reflexive parameter, rfl⟩

theorem PropertyOf.Counterpart.refl (property : Property) :
    PropertyOf.Counterpart related property property :=
  ⟨rfl, reflexive property.target, rfl, rfl, rfl, rfl⟩

theorem ObjectTypeOf.Counterpart.refl (type : ObjectType) :
    ObjectTypeOf.Counterpart related settings type type :=
  ⟨rfl, rfl, List.forall₂_same.mpr fun property _ => PropertyOf.Counterpart.refl reflexive property,
    List.forall₂_same.mpr fun constructor _ => ConstructorOf.Counterpart.refl reflexive constructor,
    fun _ _ _ => rfl⟩

theorem Target.Counterpart.refl (target : Target) :
    Target.Counterpart related settings target target := by
  cases target with
  | scalar type => exact .scalar type
  | nullable inner => exact .nullable (reflexive inner)
  | enum type => exact .enum type
  | any => exact .any
  | dynamic => exact .dynamic
  | object type => exact .object (ObjectTypeOf.Counterpart.refl reflexive type)
  | reference ref => exact .reference ref
  | list element => exact .list (reflexive element)
  | sequence type => exact .sequence ⟨rfl, reflexive type.element, rfl, rfl⟩
  | map value => exact .map (reflexive value)
  | dictionary type => exact .dictionary ⟨rfl, reflexive type.value, rfl, rfl⟩
  | array element => exact .array (reflexive element)
  | tuple slots => exact .tuple (List.forall₂_same.mpr fun slot _ => reflexive slot)

end Reflexive

/-! ## What counterparts have in common -/

theorem Target.Counterpart.isAny {one other : Target}
    (same : Target.Counterpart related settings one other) :
    other.isAny = one.isAny := by
  cases same with
  | _ => rfl

theorem ObjectTypeOf.Counterpart.property? {type another : ObjectType}
    (counterparts : ObjectTypeOf.Counterpart related settings type another) (name : String) :
    (another.property? name).map PropertyOf.name = (type.property? name).map PropertyOf.name := by
  unfold ObjectTypeOf.property?
  have each := counterparts.properties
  generalize type.properties = properties at each
  generalize another.properties = others at each
  induction each with
  | nil => rfl
  | @cons property again rest others first _ ih =>
      rw [List.find?_cons, List.find?_cons, first.name]
      split
      · rw [Option.map_some, Option.map_some, first.name]
      · exact ih

theorem ObjectTypeOf.Counterpart.bodies {type another : ObjectType}
    (counterparts : ObjectTypeOf.Counterpart related settings type another) :
    another.bodies settings = type.bodies settings := by
  have own : another.constructors.map ConstructorOf.body =
      type.constructors.map ConstructorOf.body :=
    map_eq_of_forall₂ counterparts.constructors fun _ _ same => same.body
  have filtered (list : List Constructor) :
      list.filterMap ConstructorOf.body = (list.map ConstructorOf.body).filterMap id := by
    rw [List.filterMap_map]
    rfl
  rw [ObjectTypeOf.bodies, ObjectTypeOf.bodies, counterparts.name, List.filterMap_append,
    List.filterMap_append, filtered another.constructors, own, ← filtered]

namespace Unfolds

variable {bindings later : Bindings} {one other : Target}
variable (unfolds : Unfolds related settings bindings later)
include unfolds

/-- By induction on what the target is written with: below a nullable the related targets are
unfolded again. -/
theorem related_leaf? (one : Target) : ∀ other, related one other → other.leaf? = one.leaf? := by
  refine Target.inside_induction (fun one => ∀ other, related one other →
    other.leaf? = one.leaf?) (fun target inside other same => ?_) one
  rw [← @Target.leaf?_resolve later other, ← @Target.leaf?_resolve bindings target]
  have counterparts := unfolds.step target other same
  have below : ∀ inner ∈ (target.resolve bindings).inside, ∀ another, related inner another →
      another.leaf? = inner.leaf? := by
    rw [Target.inside_resolve]
    exact inside
  revert below counterparts
  generalize target.resolve bindings = whole
  generalize other.resolve later = twin
  intro counterparts below
  cases counterparts with
  | @nullable inner another same =>
      rw [Target.leaf?, Target.leaf?, below inner (by simp [Target.inside]) another same]
  | _ => rfl

theorem leaf? (same : related one other) : other.leaf? = one.leaf? :=
  unfolds.related_leaf? one other same

theorem isLeaf (same : related one other) : other.isLeaf = one.isLeaf := by
  rw [Target.isLeaf, Target.isLeaf, unfolds.leaf? same]

theorem defaultValue (same : related one other) : other.defaultValue = one.defaultValue := by
  rw [Target.defaultValue, Target.defaultValue, unfolds.leaf? same]

theorem resolved_leaf? (same : Target.Counterpart related settings one other) :
    other.leaf? = one.leaf? := by
  cases same with
  | @nullable inner another same =>
      rw [Target.leaf?, Target.leaf?, unfolds.leaf? same]
  | _ => rfl

/-! ## Instances -/

section Instances

variable {type another : ObjectType}
variable (counterparts : ObjectTypeOf.Counterpart related settings type another)
include counterparts

theorem blank : another.blank = type.blank := by
  have entries :
      (another.properties.map fun property => (property.name, property.target.defaultValue)) =
        type.properties.map fun property => (property.name, property.target.defaultValue) :=
    map_eq_of_forall₂ counterparts.properties fun property again same => by
      rw [same.name, unfolds.defaultValue same.target]
  have folded (whole : ObjectType) : whole.blank =
      (whole.properties.map fun property => (property.name, property.target.defaultValue)).foldl
        (fun object entry => object.set entry.1 entry.2) (Object.empty whole.name) := by
    rw [ObjectTypeOf.blank, List.foldl_map]
  rw [folded, folded, entries, counterparts.name]

theorem construct {constructor again : Constructor}
    (same : ConstructorOf.Counterpart related constructor again)
    (usable : UsableConstructor settings type constructor) (arguments : List Value) :
    again.construct another arguments = constructor.construct type arguments := by
  have parameters : again.parameters.map ParameterOf.name =
      constructor.parameters.map ParameterOf.name :=
    map_eq_of_forall₂ same.parameters fun parameter other same => same.name
  exact ConstructorOf.construct_congr usable counterparts.builds (unfolds.blank counterparts)
    counterparts.property? same.body parameters arguments

end Instances

/-! ## The choice of a constructor -/

section Choice

variable (view : View)

theorem bind? {parameter another : Parameter}
    (same : ParameterOf.Counterpart related parameter another) :
    view.bind? settings another = view.bind? settings parameter := by
  rw [View.bind?, View.bind?, same.name, same.isSink, unfolds.isLeaf same.target]

theorem score? {constructor another : Constructor}
    (same : ConstructorOf.Counterpart related constructor another) :
    view.score? settings another = view.score? settings constructor := by
  have bound : (another.parameters.all fun parameter => (view.bind? settings parameter).isSome) =
      constructor.parameters.all fun parameter => (view.bind? settings parameter).isSome := by
    have images : another.parameters.map (fun parameter => (view.bind? settings parameter).isSome)
        = constructor.parameters.map fun parameter => (view.bind? settings parameter).isSome :=
      map_eq_of_forall₂ same.parameters fun parameter other same => by
        rw [unfolds.bind? view same]
    have all := congrArg (List.all · id) images
    simpa only [List.all_map, Function.comp_def, id] using all
  rw [View.score?, View.score?, bound, same.parameters.length_eq]

theorem best? {constructors others : List Constructor}
    (each : List.Forall₂ (ConstructorOf.Counterpart related) constructors others) :
    Option.Rel (fun one other => other.1 = one.1 ∧ ConstructorOf.Counterpart related one.2 other.2)
      (view.best? settings constructors) (view.best? settings others) := by
  induction each with
  | nil => exact .none
  | @cons constructor another rest others first _ ih =>
      simp only [View.best?]
      rw [first.isPublic, first.isStatic, unfolds.score? view first]
      generalize view.best? settings rest = later at ih
      generalize view.best? settings others = laterAgain at ih
      cases (if constructor.isPublic && !constructor.isStatic then
        view.score? settings constructor else none) with
      | none => exact ih
      | some points =>
          cases ih with
          | none => exact .some ⟨rfl, first⟩
          | @some one two same =>
              obtain ⟨more, chosen⟩ := one
              obtain ⟨moreAgain, chosenAgain⟩ := two
              obtain ⟨rfl, found⟩ := same
              dsimp only
              split
              · exact .some ⟨rfl, found⟩
              · exact .some ⟨rfl, first⟩

end Choice

end Unfolds

end Unflatten
