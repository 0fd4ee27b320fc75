import Unflatten.Proofs.Entries
import Unflatten.Proofs.Planning.Instances
import Unflatten.Proofs.Planning.Scopes

/-!
# What an update keeps

An instance that is updated in place keeps its type name and every field that no column addresses,
and so do the instances within it. The types are a predicate since properties of one name may differ
in their types: the value of such a name is updated as an instance of each of them in turn.
-/

set_option autoImplicit false

namespace Unflatten

/-- The type whose properties are set where an instance exists already. -/
def Settings.updatedType (settings : Settings) (declared : ObjectType) : ObjectType :=
  match settings.ofType? declared.name with
  | some own =>
    if own.subtypes.isEmpty then Planning.concreteOf declared (some own) else declared
  | none => declared

namespace Environment

variable (env : Environment)

/-- A column of the scope has the name of the property, or begins with it and a separator. -/
def Addresses (scope : Scope) (name : String) : Prop :=
  ∃ column ∈ env.header,
    (scope.contains column = true ∧ scope.nameWithin column = foldName name) ∨
      (scope.member name env.settings.separator).Covers column

instance Addresses.decidable (scope : Scope) (name : String) :
    Decidable (env.Addresses scope name) :=
  inferInstanceAs (Decidable (∃ column ∈ env.header, _))

/-- Sinks take columns without names, and untyped properties are set to null where they have no
column. -/
def MaySet (scope : Scope) (property : Property) : Prop :=
  property.isAssignable = true ∧
    (property.isSink = true ∨ (property.target.resolve env.bindings).isAny = true ∨
      env.Addresses scope property.name)

/-- Whatever is set under the name is an instance of an object type. -/
def OnlyObjects (types : ObjectType → Prop) (name : String) : Prop :=
  ∀ type, types type → ∀ property ∈ type.properties, property.isAssignable = true →
    property.name = name →
      property.isSink = false ∧ ∃ declared, property.target.resolve env.bindings = .object declared

/-- The types that an instance under the name is updated as. -/
def MemberTypes (types : ObjectType → Prop) (name : String) (member : ObjectType) : Prop :=
  ∃ type, types type ∧ ∃ property ∈ type.properties, property.isAssignable = true ∧
    property.name = name ∧ ∃ declared, property.target.resolve env.bindings = .object declared ∧
      member = env.settings.updatedType declared

end Environment

inductive Kept (env : Environment) : (ObjectType → Prop) → Scope → Object → Object → Prop where
  | intro {types : ObjectType → Prop} {scope : Scope} {before after : Object}
      (typeName : after.typeName = before.typeName)
      (frame : ∀ name, (∀ type, types type → ∀ property ∈ type.properties, property.name = name →
        ¬ env.MaySet scope property) → after.get? name = before.get? name)
      (stays : ∀ name inner, before.get? name = some (Object.toValue inner) →
        env.OnlyObjects types name → ∃ changed, after.get? name = some (Object.toValue changed))
      (within : ∀ name inner changed, before.get? name = some (Object.toValue inner) →
        after.get? name = some (Object.toValue changed) → env.OnlyObjects types name →
        Kept env (env.MemberTypes types name) (scope.member name env.settings.separator) inner
          changed) :
      Kept env types scope before after

theorem Object.toValue_injective {one other : Object} (same : one.toValue = other.toValue) :
    one = other := by
  obtain ⟨typeName, fields⟩ := one
  cases same
  rfl

theorem Object.field_toValue {object : Object} {name : String} {value : Value}
    (found : object.get? name = some value) : object.toValue.field name = value := by
  rw [Object.get?] at found
  rw [Object.toValue, Value.field, Object.getIgnoringCase?, found]
  rfl

theorem Object.sizeOf_mem {object inner : Object} {name : String}
    (member : (name, inner.toValue) ∈ object.fields) :
    sizeOf inner.fields < sizeOf object.fields := by
  have below := List.sizeOf_lt_of_mem member
  have pair : sizeOf (name, inner.toValue) = 1 + sizeOf name + sizeOf inner.toValue := rfl
  have value : sizeOf inner.toValue = 1 + sizeOf inner.typeName + sizeOf inner.fields :=
    Value.object.sizeOf_spec _ _
  lia

theorem Object.sizeOf_get? {object inner : Object} {name : String}
    (found : object.get? name = some inner.toValue) :
    sizeOf inner.fields < sizeOf object.fields :=
  Object.sizeOf_mem (Entries.mem_of_get? found)

namespace Kept

variable {env : Environment} {types more : ObjectType → Prop} {scope : Scope}
variable {before between after : Object}

theorem typeName (kept : Kept env types scope before after) : after.typeName = before.typeName := by
  cases kept with
  | intro typeName frame stays within => exact typeName

theorem frame (kept : Kept env types scope before after) {name : String}
    (untouched : ∀ type, types type → ∀ property ∈ type.properties, property.name = name →
      ¬ env.MaySet scope property) : after.get? name = before.get? name := by
  cases kept with
  | intro typeName frame stays within => exact frame name untouched

theorem within (kept : Kept env types scope before after) {name : String} {inner : Object}
    (found : before.get? name = some inner.toValue) (only : env.OnlyObjects types name) :
    ∃ changed, after.get? name = some (Object.toValue changed) ∧
      Kept env (env.MemberTypes types name) (scope.member name env.settings.separator) inner
        changed := by
  cases kept with
  | intro typeName frame stays within =>
      obtain ⟨changed, isChanged⟩ := stays name inner found only
      exact ⟨changed, isChanged, within name inner changed found isChanged only⟩

theorem refl (env : Environment) (types : ObjectType → Prop) (scope : Scope) (object : Object) :
    Kept env types scope object object := by
  refine intro rfl (fun _ _ => rfl) (fun name inner found _ => ⟨inner, found⟩) ?_
  intro name inner changed found same _
  rw [found] at same
  obtain rfl := Object.toValue_injective (Option.some.inj same)
  exact refl env _ _ inner
termination_by sizeOf object.fields
decreasing_by exact Object.sizeOf_get? found

theorem trans (first : Kept env types scope before between)
    (second : Kept env types scope between after) : Kept env types scope before after := by
  induction first generalizing after with
  | intro typeName frame stays within ih =>
      cases second with
      | intro laterName laterFrame laterStays laterWithin =>
          refine intro (laterName.trans typeName) ?_ ?_ ?_
          · intro name untouched
            rw [laterFrame name untouched, frame name untouched]
          · intro name inner found only
            obtain ⟨middle, isMiddle⟩ := stays name inner found only
            exact laterStays name middle isMiddle only
          · intro name inner changed found isChanged only
            obtain ⟨middle, isMiddle⟩ := stays name inner found only
            exact ih name inner middle found isMiddle only
              (laterWithin name middle changed isMiddle isChanged only)

theorem mono (kept : Kept env types scope before after)
    (wider : ∀ type, types type → more type) : Kept env more scope before after := by
  induction kept generalizing more with
  | intro typeName frame stays within ih =>
      have fewer {name : String} (only : env.OnlyObjects more name) (type : ObjectType)
          (isType : _) := only type (wider type isType)
      refine intro typeName ?_ ?_ ?_
      · intro name untouched
        exact frame name fun type isType => untouched type (wider type isType)
      · intro name inner found only
        exact stays name inner found (fewer only)
      · intro name inner changed found isChanged only
        refine ih name inner changed found isChanged (fewer only) ?_
        rintro member ⟨type, isType, isMember⟩
        exact ⟨type, wider type isType, isMember⟩

/-- A field may be set if a property of its name may; the value of a name for instances only has to
be one that is kept. -/
theorem set {property : Property} {type : ObjectType} {value : Value}
    (kept : Kept env types scope before after) (isType : types type)
    (member : property ∈ type.properties) (may : env.MaySet scope property)
    (updates : ∀ inner, after.get? property.name = some (Object.toValue inner) →
      env.OnlyObjects types property.name → ∃ changed, value = Object.toValue changed ∧
        Kept env (env.MemberTypes types property.name)
          (scope.member property.name env.settings.separator) inner changed) :
    Kept env types scope before (after.set property.name value) := by
  have here : (after.set property.name value).get? property.name = some value :=
    Entries.get?_insert_self _ _ _
  have there {name : String} (differs : name ≠ property.name) :
      (after.set property.name value).get? name = after.get? name :=
    Entries.get?_insert_of_ne _ _ differs
  cases kept with
  | intro typeName frame stays within =>
      refine intro typeName ?_ ?_ ?_
      · intro name untouched
        by_cases same : name = property.name
        · exact absurd may (untouched type isType property member same.symm)
        · rw [there same]
          exact frame name untouched
      · intro name inner found only
        obtain ⟨middle, isMiddle⟩ := stays name inner found only
        by_cases same : name = property.name
        · subst same
          obtain ⟨changed, rfl, -⟩ := updates middle isMiddle only
          exact ⟨changed, here⟩
        · exact ⟨middle, (there same).trans isMiddle⟩
      · intro name inner changed found isChanged only
        by_cases same : name = property.name
        · subst same
          obtain ⟨middle, isMiddle⟩ := stays _ inner found only
          obtain ⟨next, rfl, keptNext⟩ := updates middle isMiddle only
          rw [here] at isChanged
          obtain rfl := Object.toValue_injective (Option.some.inj isChanged)
          exact (within _ inner middle found isMiddle only).trans keptNext
        · rw [there same] at isChanged
          exact within name inner changed found isChanged only

end Kept

end Unflatten
