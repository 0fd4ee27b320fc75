import Mathlib.Data.List.Forall2
import Mathlib.Logic.Relation
import Unflatten.Settings

/-!
# What a target reaches

Planning a target looks at its parts: the elements of containers, the members of object types and
the types that the settings put in their place, and what references are bound to. Two targets are
`Alike` if they differ in nothing but references and the types that these are bound to. A target all
of whose references are bound as before is alike to itself.
-/

set_option autoImplicit false

namespace Unflatten

/-! ## Parts -/

def ConstructorOf.targets (constructor : Constructor) : List Target :=
  constructor.parameters.map ParameterOf.target

def ObjectTypeOf.targets (type : ObjectType) : List Target :=
  type.properties.map PropertyOf.target ++ type.constructors.flatMap ConstructorOf.targets

/-- What may be planned in the place of a type with this policy. -/
def TypePolicy.targets (policy : TypePolicy) : List Target :=
  policy.preferred.toList.flatMap ConstructorOf.targets ++ policy.default.toList.map Target.object
    ++ policy.subtypes.map fun rule => .object rule.target.objectType

namespace Target

def parts (bindings : Bindings) (settings : Settings) : Target → List Target
  | nullable inner => [inner]
  | object type =>
    type.targets ++ (settings.ofType? type.name).toList.flatMap TypePolicy.targets
  | reference ref => (bindings.find? ref).toList.map object
  | list element => [element]
  | sequence type => [type.element]
  | map value => [value]
  | dictionary type => [type.value]
  | array element => [element]
  | tuple slots => slots
  | _ => []

/-- The parts that a target is written with. -/
def inside : Target → List Target
  | nullable inner => [inner]
  | list element => [element]
  | sequence type => [type.element]
  | map value => [value]
  | dictionary type => [type.value]
  | array element => [element]
  | tuple slots => slots
  | scalar _ | enum _ | any | dynamic | object _ | reference _ => []

/-- The target itself, its parts, their parts and so on. -/
def Reaches (bindings : Bindings) (settings : Settings) : Target → Target → Prop :=
  Relation.ReflTransGen fun whole inner => inner ∈ whole.parts bindings settings

/-- Whatever is reached has the property. -/
def Everywhere (bindings : Bindings) (settings : Settings) (claim : Target → Prop)
    (target : Target) : Prop :=
  ∀ inner, target.Reaches bindings settings inner → claim inner

/-- Every reference that is reached is bound. -/
def AllBound (bindings : Bindings) (settings : Settings) (target : Target) : Prop :=
  ∀ ref, target.Reaches bindings settings (.reference ref) →
    (bindings.find? ref).isSome = true

/-- Every reference that is reached is bound as it was before. -/
def Steady (bindings later : Bindings) (settings : Settings) (target : Target) : Prop :=
  ∀ ref, target.Reaches bindings settings (.reference ref) →
    bindings.find? ref = later.find? ref

/-- Targets, resolved under the one and the other bindings, that are the same up to references.
Unbound references are told apart by their names only. -/
inductive Alike (bindings later : Bindings) (settings : Settings) : Target → Target → Prop where
  | scalar (type : ScalarType) : Alike bindings later settings (.scalar type) (.scalar type)
  | nullable {inner other : Target}
      (alike : Alike bindings later settings (inner.resolve bindings) (other.resolve later)) :
      Alike bindings later settings (.nullable inner) (.nullable other)
  | enum (type : EnumType) : Alike bindings later settings (.enum type) (.enum type)
  | any : Alike bindings later settings .any .any
  | dynamic : Alike bindings later settings .dynamic .dynamic
  | object (type : ObjectType) (steady : (Target.object type).Steady bindings later settings) :
      Alike bindings later settings (.object type) (.object type)
  | unbound {ref other : Reference} (named : ref.name = other.name) :
      Alike bindings later settings (.reference ref) (.reference other)
  | list {element other : Target}
      (alike : Alike bindings later settings (element.resolve bindings) (other.resolve later)) :
      Alike bindings later settings (.list element) (.list other)
  | sequence (type : SequenceType)
      (alike : Alike bindings later settings (type.element.resolve bindings)
        (type.element.resolve later)) :
      Alike bindings later settings (.sequence type) (.sequence type)
  | map {value other : Target}
      (alike : Alike bindings later settings (value.resolve bindings) (other.resolve later)) :
      Alike bindings later settings (.map value) (.map other)
  | dictionary (type : DictionaryType)
      (alike : Alike bindings later settings (type.value.resolve bindings)
        (type.value.resolve later)) :
      Alike bindings later settings (.dictionary type) (.dictionary type)
  | array {element other : Target}
      (alike : Alike bindings later settings (element.resolve bindings) (other.resolve later)) :
      Alike bindings later settings (.array element) (.array other)
  | tuple {slots others : List Target}
      (alike : List.Forall₂ (fun slot other =>
        Alike bindings later settings (slot.resolve bindings) (other.resolve later)) slots others) :
      Alike bindings later settings (.tuple slots) (.tuple others)

end Target

/-- Bindings are added and never changed. -/
def Bindings.Extends (later earlier : Bindings) : Prop :=
  ∀ ref type, earlier.find? ref = some type → later.find? ref = some type

namespace Target

mutual

theorem inside_induction (claim : Target → Prop)
    (step : ∀ target : Target, (∀ inner ∈ target.inside, claim inner) → claim target) :
    ∀ target : Target, claim target
  | .scalar type => step (.scalar type) (by simp [inside])
  | .nullable inner =>
    step (.nullable inner) (by simpa [inside] using inside_induction claim step inner)
  | .enum type => step (.enum type) (by simp [inside])
  | .any => step .any (by simp [inside])
  | .dynamic => step .dynamic (by simp [inside])
  | .object type => step (.object type) (by simp [inside])
  | .reference ref => step (.reference ref) (by simp [inside])
  | .list element =>
    step (.list element) (by simpa [inside] using inside_induction claim step element)
  | .sequence ⟨ident, name, element, seed, add⟩ =>
    step (.sequence ⟨ident, name, element, seed, add⟩)
      (by simpa [inside] using inside_induction claim step element)
  | .map value => step (.map value) (by simpa [inside] using inside_induction claim step value)
  | .dictionary ⟨ident, name, value, seed, insert⟩ =>
    step (.dictionary ⟨ident, name, value, seed, insert⟩)
      (by simpa [inside] using inside_induction claim step value)
  | .array element =>
    step (.array element) (by simpa [inside] using inside_induction claim step element)
  | .tuple slots => step (.tuple slots) (slots_induction claim step slots)

theorem slots_induction (claim : Target → Prop)
    (step : ∀ target : Target, (∀ inner ∈ target.inside, claim inner) → claim target) :
    ∀ slots : List Target, ∀ slot ∈ slots, claim slot
  | [] => by simp
  | first :: rest =>
    List.forall_mem_cons.mpr ⟨inside_induction claim step first, slots_induction claim step rest⟩

end

section Reaching

variable {bindings later : Bindings} {settings : Settings} {target whole inner : Target}

theorem inside_parts (member : inner ∈ whole.inside) : inner ∈ whole.parts bindings settings := by
  cases whole with
  | nullable | list | sequence | map | dictionary | array | tuple => exact member
  | scalar | enum | any | dynamic | object | reference => cases member

theorem Reaches.resolve (target : Target) :
    target.Reaches bindings settings (target.resolve bindings) := by
  cases target with
  | reference ref =>
      rw [Target.resolve]
      split
      · rename_i type found
        exact Relation.ReflTransGen.single (by simp [parts, found])
      · exact Relation.ReflTransGen.refl
  | _ => exact Relation.ReflTransGen.refl

theorem Reaches.within (closed : Target → Prop) (start : closed whole)
    (step : ∀ outer, closed outer → ∀ part ∈ outer.parts bindings settings, closed part)
    (reached : whole.Reaches bindings settings inner) : closed inner := by
  induction reached with
  | refl => exact start
  | tail _ member ih => exact step _ ih _ member

theorem Everywhere.here {claim : Target → Prop}
    (everywhere : whole.Everywhere bindings settings claim) : claim whole :=
  everywhere whole Relation.ReflTransGen.refl

theorem Everywhere.part {claim : Target → Prop}
    (everywhere : whole.Everywhere bindings settings claim)
    (member : inner ∈ whole.parts bindings settings) : inner.Everywhere bindings settings claim :=
  fun further reached => everywhere further (Relation.ReflTransGen.head member reached)

theorem Everywhere.resolve {claim : Target → Prop}
    (everywhere : whole.Everywhere bindings settings claim) :
    (whole.resolve bindings).Everywhere bindings settings claim :=
  fun further reached => everywhere further ((Reaches.resolve whole).trans reached)

theorem AllBound.inside (bound : whole.AllBound bindings settings)
    (reached : whole.Reaches bindings settings inner) : inner.AllBound bindings settings :=
  fun ref further => bound ref (reached.trans further)

theorem Steady.part (steady : whole.Steady bindings later settings)
    (member : inner ∈ whole.parts bindings settings) : inner.Steady bindings later settings :=
  fun ref reached => steady ref (Relation.ReflTransGen.head member reached)

theorem AllBound.steady (bound : target.AllBound bindings settings)
    (grown : later.Extends bindings) : target.Steady bindings later settings := by
  intro ref reached
  obtain ⟨type, found⟩ := Option.isSome_iff_exists.mp (bound ref reached)
  rw [found, grown ref type found]

end Reaching

/-! ## Alike targets -/

section Alike

variable {bindings later : Bindings} {settings : Settings}

theorem Steady.alike {target : Target} (steady : target.Steady bindings later settings) :
    Alike bindings later settings (target.resolve bindings) (target.resolve later) := by
  revert steady
  refine inside_induction (fun target => target.Steady bindings later settings →
    Alike bindings later settings (target.resolve bindings) (target.resolve later))
    (fun target inside steady => ?_) target
  have alike : ∀ inner ∈ target.inside,
      Alike bindings later settings (inner.resolve bindings) (inner.resolve later) :=
    fun inner member => inside inner member (steady.part (inside_parts member))
  cases target with
  | scalar type => exact Alike.scalar type
  | nullable inner => exact Alike.nullable (alike inner (by simp [Target.inside]))
  | enum type => exact Alike.enum type
  | any => exact Alike.any
  | dynamic => exact Alike.dynamic
  | object type => exact Alike.object type steady
  | reference ref =>
      have same := steady ref Relation.ReflTransGen.refl
      simp only [resolve, ← same]
      split
      · rename_i type found
        exact Alike.object type (steady.part (by simp [parts, found]))
      · exact Alike.unbound rfl
  | list element => exact Alike.list (alike element (by simp [Target.inside]))
  | sequence type => exact Alike.sequence type (alike type.element (by simp [Target.inside]))
  | map value => exact Alike.map (alike value (by simp [Target.inside]))
  | dictionary type => exact Alike.dictionary type (alike type.value (by simp [Target.inside]))
  | array element => exact Alike.array (alike element (by simp [Target.inside]))
  | tuple slots => exact Alike.tuple (List.forall₂_same.mpr alike)

theorem inside_resolve (target : Target) : (target.resolve bindings).inside = target.inside := by
  cases target with
  | reference ref =>
      rw [Target.resolve]
      split
      · rfl
      · rfl
  | _ => rfl

theorem resolve_resolve (target : Target) :
    (target.resolve bindings).resolve bindings = target.resolve bindings := by
  cases target with
  | reference ref =>
      rw [Target.resolve]
      split
      · rfl
      · rename_i unbound
        rw [Target.resolve, unbound]
  | _ => rfl

theorem leaf?_resolve (target : Target) : (target.resolve bindings).leaf? = target.leaf? := by
  cases target with
  | reference ref =>
      rw [resolve]
      split
      · rfl
      · rfl
  | _ => rfl

end Alike

end Target

end Unflatten
