import Unflatten.Proofs.Program.FieldChanges
import Unflatten.Proofs.Updates.Starts

/-!
# Names that differ in letter case

The present value of a property is looked up in any letter case, but what is set is set under the
exact name of the property. The names of the fields of an object that is updated keep differing by
more than letter case if its fields are spelled like the properties that may be set, and the same
holds within all instances that are updated along with it. An object that a factory makes may be
spelled in any way, and so may one that comes from a constructor with a body of its own; a
constructor that stores its arguments spells them like the properties.
-/

set_option autoImplicit false

namespace Unflatten

open Planning

/-! ## Spellings -/

/-- The names of the properties differ by more than letter case. -/
def ObjectTypeOf.Apart (type : ObjectType) : Prop :=
  type.properties.Pairwise fun one other => Text.equalIgnoringCase one.name other.name = false

instance ObjectTypeOf.Apart.decidable (type : ObjectType) : Decidable type.Apart :=
  inferInstanceAs (Decidable (List.Pairwise _ _))

namespace Object

/-- The fields stand in the order of their names, and these differ by more than letter case. -/
structure Apart (object : Object) : Prop where
  sorted : Entries.Sorted object.fields
  distinct : object.fields.Pairwise fun one other => Text.equalIgnoringCase one.1 other.1 = false

instance Apart.decidable (object : Object) : Decidable object.Apart :=
  decidable_of_iff
    (object.fields.Pairwise (fun first later : String × Value => first.1 < later.1) ∧
      object.fields.Pairwise fun one other => Text.equalIgnoringCase one.1 other.1 = false)
    ⟨fun ⟨sorted, distinct⟩ => ⟨sorted, distinct⟩, fun apart => ⟨apart.sorted, apart.distinct⟩⟩

/-- A field of the name is spelled like the name. -/
def Spells (object : Object) (name : String) : Prop :=
  ∀ field ∈ object.fields, Text.equalIgnoringCase field.1 name = true → field.1 = name

instance Spells.decidable (object : Object) (name : String) : Decidable (object.Spells name) :=
  inferInstanceAs (Decidable (∀ field ∈ object.fields, _))

variable {object : Object} {name other : String} {value : Value}

theorem Apart.empty (typeName : String) : (Object.empty typeName).Apart :=
  ⟨List.Pairwise.nil, List.Pairwise.nil⟩

theorem Apart.set (apart : object.Apart) (spells : object.Spells name) :
    (object.set name value).Apart := by
  have sorted : Entries.Sorted (object.set name value).fields := apart.sorted.insert
  refine ⟨sorted, sorted.imp_of_mem ?_⟩
  intro one later isOne isLater before
  have differs : one.1 ≠ later.1 := by
    intro same
    rw [same] at before
    exact String.lt_irrefl _ before
  by_contra alike
  rw [Bool.not_eq_false] at alike
  rcases Entries.mem_insert isOne with rfl | isOne
  · rcases Entries.mem_insert isLater with rfl | isLater
    · exact differs rfl
    · exact differs (spells later isLater (Text.equalIgnoringCase_symm alike)).symm
  · rcases Entries.mem_insert isLater with rfl | isLater
    · exact differs (spells one isOne alike)
    · have same := Text.eq_of_distinct apart.distinct isOne isLater alike
      exact differs (congrArg Prod.fst same)

theorem Spells.set (spells : object.Spells other)
    (same : Text.equalIgnoringCase name other = true → name = other) :
    (object.set name value).Spells other := by
  intro field isField alike
  rcases Entries.mem_insert isField with rfl | isField
  · exact same alike
  · exact spells field isField alike

theorem mem_of_field {inner : Object} (found : object.toValue.field name = inner.toValue) :
    ∃ own, (own, inner.toValue) ∈ object.fields := by
  simp only [toValue, Value.field, getIgnoringCase?] at found
  split at found
  · rename_i value isValue
    rw [Option.getD_some] at found
    rw [found] at isValue
    exact ⟨name, Entries.mem_of_get? isValue⟩
  · cases alike :
      List.find? (fun field => Text.equalIgnoringCase field.1 name) object.fields with
    | none =>
        rw [alike] at found
        cases found
    | some field =>
        rw [alike, Option.map_some, Option.getD_some] at found
        obtain ⟨own, _⟩ := field
        cases found
        exact ⟨own, List.mem_of_find?_eq_some alike⟩

theorem sizeOf_field {inner : Object} (found : object.toValue.field name = inner.toValue) :
    sizeOf inner.fields < sizeOf object.fields := by
  obtain ⟨own, member⟩ := mem_of_field found
  exact Object.sizeOf_mem member

end Object

namespace Environment

variable (env : Environment)

/-- The names of the fields differ by more than letter case, and the fields that bear the name of a
property that may be set are spelled like it. -/
structure Tidy (type : ObjectType) (scope : Scope) (object : Object) : Prop where
  apart : object.Apart
  spells : ∀ property ∈ type.properties, env.MaySet scope property → object.Spells property.name

end Environment

/-- What is tidy before is tidy after, and so for all instances that are updated in place. -/
inductive StaysTidy (env : Environment) : ObjectType → Scope → Object → Object → Prop where
  | intro {type : ObjectType} {scope : Scope} {before after : Object}
      (fields : type.Apart → env.Tidy type scope before → env.Tidy type scope after)
      (stays : type.Apart → ∀ property ∈ type.properties, property.isSink = false →
        ∀ declared, property.target.resolve env.bindings = .object declared →
        ∀ inner : Object, before.toValue.field property.name = inner.toValue →
          ∃ changed : Object, after.toValue.field property.name = changed.toValue)
      (within : type.Apart → ∀ property ∈ type.properties, property.isSink = false →
        ∀ declared, property.target.resolve env.bindings = .object declared →
        ∀ inner changed : Object, before.toValue.field property.name = inner.toValue →
          after.toValue.field property.name = changed.toValue →
            StaysTidy env (env.settings.updatedType declared)
              (scope.member property.name env.settings.separator) inner changed) :
      StaysTidy env type scope before after

namespace StaysTidy

variable {env : Environment} {type declared : ObjectType} {scope : Scope}
variable {before between after : Object} {property : Property} {value : Value}

theorem fields (stays : StaysTidy env type scope before after) (apart : type.Apart)
    (tidy : env.Tidy type scope before) : env.Tidy type scope after := by
  cases stays with
  | intro fields stays within => exact fields apart tidy

theorem within (stays : StaysTidy env type scope before after) (apart : type.Apart)
    (member : property ∈ type.properties) (isPlain : property.isSink = false)
    (isObject : property.target.resolve env.bindings = .object declared) {inner : Object}
    (found : before.toValue.field property.name = inner.toValue) :
    ∃ changed : Object, after.toValue.field property.name = changed.toValue ∧
      StaysTidy env (env.settings.updatedType declared)
        (scope.member property.name env.settings.separator) inner changed := by
  cases stays with
  | intro fields stays within =>
      obtain ⟨changed, isChanged⟩ := stays apart property member isPlain declared isObject inner found
      exact ⟨changed, isChanged,
        within apart property member isPlain declared isObject inner changed found isChanged⟩

theorem refl (env : Environment) (type : ObjectType) (scope : Scope) (object : Object) :
    StaysTidy env type scope object object := by
  refine intro (fun _ tidy => tidy) (fun _ _ _ _ _ _ inner found => ⟨inner, found⟩) ?_
  intro _ property _ _ declared _ inner changed found same
  obtain rfl := Object.toValue_injective (found.symm.trans same)
  exact refl env _ _ inner
termination_by sizeOf object.fields
decreasing_by exact Object.sizeOf_field found

theorem trans (first : StaysTidy env type scope before between)
    (second : StaysTidy env type scope between after) : StaysTidy env type scope before after := by
  induction first generalizing after with
  | intro fields stays within ih =>
      refine intro (fun apart tidy => second.fields apart (fields apart tidy)) ?_ ?_
      · intro apart property member isPlain declared isObject inner found
        obtain ⟨middle, isMiddle⟩ := stays apart property member isPlain declared isObject inner found
        obtain ⟨changed, isChanged, -⟩ := second.within apart member isPlain isObject isMiddle
        exact ⟨changed, isChanged⟩
      · intro apart property member isPlain declared isObject inner changed found isChanged
        obtain ⟨middle, isMiddle⟩ := stays apart property member isPlain declared isObject inner found
        obtain ⟨last, isLast, later⟩ := second.within apart member isPlain isObject isMiddle
        obtain rfl := Object.toValue_injective (isChanged.symm.trans isLast)
        exact ih apart property member isPlain declared isObject inner middle found isMiddle later

theorem set (member : property ∈ type.properties) (may : env.MaySet scope property)
    (updates : ∀ (inner : Object) (declared : ObjectType),
      property.target.resolve env.bindings = .object declared → property.isSink = false →
        before.toValue.field property.name = inner.toValue →
          ∃ changed : Object, value = changed.toValue ∧
            StaysTidy env (env.settings.updatedType declared)
              (scope.member property.name env.settings.separator) inner changed) :
    StaysTidy env type scope before (before.set property.name value) := by
  have here : (before.set property.name value).toValue.field property.name = value :=
    Value.field_setField before property.name value
  have there {other : Property}
      (differs : Text.equalIgnoringCase property.name other.name = false) :
      (before.set property.name value).toValue.field other.name =
        before.toValue.field other.name :=
    Value.field_setField_other before.toValue differs value
  refine intro (fun apart tidy => ?_) ?_ ?_
  · refine ⟨tidy.apart.set (tidy.spells property member may), fun other isOther mayOther => ?_⟩
    refine (tidy.spells other isOther mayOther).set fun alike => ?_
    rw [PropertyOf.eq_of_distinct apart member isOther alike]
  · intro apart other isOther isPlain declared isObject inner found
    cases alike : Text.equalIgnoringCase property.name other.name with
    | true =>
        obtain rfl := PropertyOf.eq_of_distinct apart member isOther alike
        obtain ⟨changed, rfl, -⟩ := updates inner declared isObject isPlain found
        exact ⟨changed, here⟩
    | false => exact ⟨inner, (there alike).trans found⟩
  · intro apart other isOther isPlain declared isObject inner changed found isChanged
    cases alike : Text.equalIgnoringCase property.name other.name with
    | true =>
        obtain rfl := PropertyOf.eq_of_distinct apart member isOther alike
        obtain ⟨next, rfl, further⟩ := updates inner declared isObject isPlain found
        obtain rfl := Object.toValue_injective (here.symm.trans isChanged)
        exact further
    | false =>
        rw [there alike, found] at isChanged
        obtain rfl := Object.toValue_injective isChanged
        exact refl env _ _ inner

theorem withstands (env : Environment) : env.Withstands (StaysTidy env) :=
  ⟨refl env, fun member may stays updates => stays.trans (set member may updates)⟩

end StaysTidy

/-! ## What instances start as -/

namespace ConstructorOf

/-- Parameters without a property differ by more than letter case. -/
def Apart (constructor : Constructor) (type : ObjectType) : Prop :=
  ∀ one ∈ constructor.parameters, ∀ other ∈ constructor.parameters,
    (type.property? one.name).isNone = true → (type.property? other.name).isNone = true →
      Text.equalIgnoringCase one.name other.name = true → one.name = other.name

/-- The names that a constructor gives to fields if it stores its arguments. -/
def Names (constructor : Constructor) (type : ObjectType) (name : String) : Prop :=
  (∃ property ∈ type.properties, property.name = name) ∨
    ∃ parameter ∈ constructor.parameters, type.property? parameter.name = none ∧
      parameter.name = name

variable {constructor : Constructor} {type : ObjectType}

theorem Names.eq {one other : String} (apart : type.Apart) (loose : constructor.Apart type)
    (isOne : constructor.Names type one) (isOther : constructor.Names type other)
    (alike : Text.equalIgnoringCase one other = true) : one = other := by
  have unlike {property : Property} {parameter : Parameter} (member : property ∈ type.properties)
      (none : type.property? parameter.name = none) :
      Text.equalIgnoringCase property.name parameter.name = false :=
    Bool.eq_false_iff.mpr (List.find?_eq_none.mp none property member)
  rcases isOne with ⟨property, member, rfl⟩ | ⟨parameter, member, none, rfl⟩
  · rcases isOther with ⟨second, isSecond, rfl⟩ | ⟨second, isSecond, noSecond, rfl⟩
    · rw [PropertyOf.eq_of_distinct apart member isSecond alike]
    · rw [unlike member noSecond] at alike
      cases alike
  · rcases isOther with ⟨second, isSecond, rfl⟩ | ⟨second, isSecond, noSecond, rfl⟩
    · rw [Text.equalIgnoringCase_comm, unlike isSecond none] at alike
      cases alike
    · exact loose parameter member second isSecond (Option.isNone_iff_eq_none.mpr none)
        (Option.isNone_iff_eq_none.mpr noSecond) alike

end ConstructorOf

theorem Object.Apart.foldl {α : Type} {named : String → Prop} {name : α → String}
    {value : α → Value} {items : List α} {object : Object}
    (unique : ∀ one other, named one → named other →
      Text.equalIgnoringCase one other = true → one = other)
    (each : ∀ item ∈ items, named (name item)) (apart : object.Apart)
    (within : ∀ field ∈ object.fields, named field.1) :
    (items.foldl (fun object item => object.set (name item) (value item)) object).Apart ∧
      ∀ field ∈
        (items.foldl (fun object item => object.set (name item) (value item)) object).fields,
        named field.1 := by
  induction items generalizing object with
  | nil => exact ⟨apart, within⟩
  | cons first rest ih =>
      have isNamed := each first List.mem_cons_self
      refine ih (fun item member => each item (List.mem_cons_of_mem _ member))
        (apart.set fun field isField => unique _ _ (within field isField) isNamed) ?_
      intro field isField
      rcases Entries.mem_insert isField with rfl | isField
      · exact isNamed
      · exact within field isField

theorem ConstructorOf.construct_tidy {env : Environment} {scope : Scope} {type : ObjectType}
    {constructor : Constructor} {arguments : List Value} (stores : constructor.body = none)
    (apart : type.Apart) (loose : constructor.Apart type) :
    env.Tidy type scope (constructor.construct type arguments) := by
  have unique (one other : String) (isOne : constructor.Names type one)
      (isOther : constructor.Names type other) := Names.eq apart loose isOne isOther
  have blank := @Object.Apart.foldl Property (constructor.Names type) PropertyOf.name
    (fun property => property.target.defaultValue) type.properties (Object.empty type.name) unique
    (fun property member => Or.inl ⟨property, member, rfl⟩) (Object.Apart.empty _)
    (fun field isField => nomatch isField)
  have stored : ∀ entry ∈ constructor.parameters.zip arguments, constructor.Names type
      (((type.property? entry.1.name).map PropertyOf.name).getD entry.1.name) := by
    intro entry member
    cases found : type.property? entry.1.name with
    | some property => exact Or.inl ⟨property, List.mem_of_find?_eq_some found, rfl⟩
    | none => exact Or.inr ⟨entry.1, (List.of_mem_zip member).1, found, rfl⟩
  obtain ⟨isApart, within⟩ := @Object.Apart.foldl (Parameter × Value) (constructor.Names type) _
    Prod.snd _ _ unique stored blank.1 blank.2
  rw [construct, stores]
  refine ⟨isApart, fun property member _ field isField => ?_⟩
  exact unique _ _ (within field isField) (Or.inl ⟨property, member, rfl⟩)

/-! ## Guests

A guest is given another badge. The badge is found in either spelling of its field. -/

namespace Guests

def badge : ObjectType :=
  ObjectTypeOf.declare 1 "Badge" false [{ name := "Name", target := .scalar .string }] 11 []

def guest : ObjectType :=
  ObjectTypeOf.declare 2 "Guest" false
    [{ name := "Badge", target := .object badge },
      { name := "Room", target := .scalar .string }] 12 []

def columns : List Column :=
  [Column.declare "badge_name" .string]

def row : Row :=
  ⟨columns, [.string "Bo"]⟩

def ada : Object :=
  ⟨"Badge", [("Name", .string "Ada")]⟩

def stay (field : String) : Object :=
  ⟨"Guest", [(field, ada.toValue)]⟩

def mapper? : Except Failure Mapper :=
  Mapper.make .standard [] (.object guest) (Header.ofColumns columns) {}

def updated? (field : String) : Except Failure Value :=
  mapper?.bind fun mapper => mapper.update row (stay field).toValue

theorem updated {field : String} (succeeds : (updated? field).isOk = true) :
    ∃ mapper value, mapper? = .ok mapper ∧ mapper.update row (stay field).toValue = .ok value ∧
      updated? field = .ok value := by
  obtain ⟨value, done⟩ := Except.of_isOk succeeds
  obtain ⟨mapper, made, ran⟩ := Except.bind_eq_ok done
  exact ⟨mapper, value, made, ran, done⟩

/-- The fields that are left have names that differ in letter case only. -/
def mixesUp : Bool :=
  match updated? "badge" with
  | .ok (.object typeName fields) => !decide (Object.mk typeName fields).Apart
  | _ => false

end Guests

/-- The names of the fields stay apart wherever an object is updated whose fields are spelled like
the properties that may be set. If there was no object, the same holds of a new instance, which has
come from a factory or from a constructor; one that stores its arguments spells them so. -/
theorem Mapper.update_tidy {bindings : Bindings} {target : Target} {declared : ObjectType}
    {columns : List Column} {settings : Settings} {mapper : Mapper} {row : Row}
    {existing value : Value} (isObject : target.resolve bindings = .object declared)
    (made : Mapper.make .standard bindings target (Header.ofColumns columns) settings =
      .ok mapper)
    (updated : mapper.update row existing = .ok value) :
    ∃ type start after, value = Object.toValue after ∧
      StaysTidy ⟨Header.ofColumns columns, settings, bindings⟩ type .root start after ∧
      ((existing = start.toValue ∧ type = settings.updatedType declared) ∨
        (∀ before : Object, existing ≠ before.toValue) ∧ StandsFor settings declared type ∧
          ((∃ maker, settings.Employs declared type maker ∧ maker.make row = some start) ∨
            ∃ constructor arguments, UsableConstructor settings type constructor ∧
              start = constructor.construct type arguments ∧
              (constructor.body = none → type.Apart → constructor.Apart type →
                Environment.Tidy ⟨Header.ofColumns columns, settings, bindings⟩ type .root
                  start))) := by
  let env : Environment := ⟨Header.ofColumns columns, settings, bindings⟩
  obtain ⟨plan, planned, rfl⟩ := Except.map_eq_ok made
  have indexed : env.header.WellIndexed := Header.ofColumns_wellIndexed columns
  have withstands := StaysTidy.withstands env
  by_cases isThere : ∃ before : Object, existing = before.toValue
  · obtain ⟨before, rfl⟩ := isThere
    obtain ⟨after, rfl, stays⟩ :=
      Plan.update_becomes withstands indexed isObject planned updated
    exact ⟨_, before, after, rfl, stays, Or.inl ⟨rfl, rfl⟩⟩
  · have other := not_exists.mp isThere
    obtain ⟨type, start, stands, starts, after, rfl, stays⟩ :=
      Plan.run_isNew withstands indexed isObject planned other updated
    refine ⟨type, start, after, rfl, stays, Or.inr ⟨other, stands, ?_⟩⟩
    rcases starts with byFactory | ⟨constructor, arguments, usable, rfl⟩
    · exact Or.inl byFactory
    · refine Or.inr ⟨constructor, arguments, usable, rfl, fun stores apart loose => ?_⟩
      exact ConstructorOf.construct_tidy stores apart loose

/-- The guest who is spelled right has one badge, whose one name is the new one. -/
theorem Guests.badge_renamed : ∃ mapper after changed, Guests.mapper? = .ok mapper ∧
    mapper.update Guests.row (Guests.stay "Badge").toValue = .ok (Object.toValue after) ∧
    after.Apart ∧ after.toValue.field "Badge" = Object.toValue changed ∧ changed.Apart := by
  have succeeds : (Guests.updated? "Badge").isOk = true := by decide +kernel
  obtain ⟨mapper, value, made, ran, -⟩ := Guests.updated succeeds
  have isObject : (Target.object Guests.guest).resolve [] = .object Guests.guest := rfl
  obtain ⟨type, start, after, rfl, stays, ⟨same, rfl⟩ | ⟨other, -⟩⟩ :=
    Mapper.update_tidy isObject made ran
  · obtain rfl := Object.toValue_injective same
    have guestApart : Guests.guest.Apart := by decide
    have badgeApart : Guests.badge.Apart := by decide
    have spelled : ∀ property ∈ Guests.guest.properties,
        (Guests.stay "Badge").Spells property.name := by decide
    have badgeSpelled : ∀ property ∈ Guests.badge.properties,
        Guests.ada.Spells property.name := by decide
    have member : { name := "Badge", target := .object Guests.badge } ∈ Guests.guest.properties :=
      List.mem_cons_self
    have tidy := stays.fields guestApart ⟨by decide, fun property member _ => spelled property member⟩
    obtain ⟨changed, isChanged, within⟩ := stays.within guestApart member rfl rfl
      (show (Guests.stay "Badge").toValue.field "Badge" = Guests.ada.toValue from rfl)
    have inner := within.fields badgeApart
      ⟨by decide, fun property member _ => badgeSpelled property member⟩
    exact ⟨mapper, after, changed, made, ran, tidy.apart, isChanged, inner.apart⟩
  · exact absurd rfl (other (Guests.stay "Badge"))

/-- A guest whose badge is in a field of another spelling is left with the old badge and the new
one. -/
theorem Guests.badge_doubled : ∃ mapper after, Guests.mapper? = .ok mapper ∧
    mapper.update Guests.row (Guests.stay "badge").toValue = .ok (Object.toValue after) ∧
    Guests.guest.Apart ∧ Guests.badge.Apart ∧ (Guests.stay "badge").Apart ∧ ¬ after.Apart := by
  have succeeds : (Guests.updated? "badge").isOk = true := by decide +kernel
  obtain ⟨mapper, value, made, ran, done⟩ := Guests.updated succeeds
  have mixed : Guests.mixesUp = true := by decide +kernel
  unfold Guests.mixesUp at mixed
  rw [done] at mixed
  cases value with
  | object typeName fields =>
      have mixed : (!decide (Object.mk typeName fields).Apart) = true := mixed
      refine ⟨mapper, ⟨typeName, fields⟩, made, ran, by decide, by decide, by decide, fun apart => ?_⟩
      rw [decide_eq_true apart] at mixed
      cases mixed
  | _ => cases mixed

end Unflatten
