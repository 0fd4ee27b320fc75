import Unflatten.Proofs.Keys.Objects

/-!
# Policies of types that are not met

A planner asks for the policy of a type only where it meets the type. Two environments that differ
in nothing but policies therefore plan a target alike if they agree on every type that it reaches.
The rules of a type that is not met again below itself matter at its own place only.
-/

set_option autoImplicit false

namespace Unflatten

/-- The same environment with other policies for types. -/
def Environment.withTypes (env : Environment) (types : Entries TypePolicy) : Environment :=
  { env with settings := { env.settings with types } }

/-- The policies are those of the environment for every object type that the target reaches. -/
def Target.Unmoved (env : Environment) (types : Entries TypePolicy) (target : Target) : Prop :=
  target.Everywhere env.bindings env.settings fun inner =>
    ∀ type, inner = .object type → types.get? type.name = env.settings.ofType? type.name

/-- The same for all that an instance of the type is planned with, whatever its subtypes are. -/
structure ObjectTypeOf.MadeAlike (env : Environment) (types : Entries TypePolicy)
    (type : ObjectType) : Prop where
  preferred : (types.get? type.name).bind TypePolicy.preferred =
    (env.settings.ofType? type.name).bind TypePolicy.preferred
  factory : (types.get? type.name).bind TypePolicy.factory =
    (env.settings.ofType? type.name).bind TypePolicy.factory
  members : ∀ part ∈ (Target.object type).parts env.bindings env.settings, part.Unmoved env types

theorem Target.Unmoved.madeAlike {env : Environment} {types : Entries TypePolicy}
    {type : ObjectType} (unmoved : (Target.object type).Unmoved env types) :
    type.MadeAlike env types := by
  have same : types.get? type.name = env.settings.ofType? type.name := unmoved.here type rfl
  exact ⟨by rw [same], by rw [same], fun _ member => unmoved.part member⟩

namespace Planning

variable {env : Environment} {types : Entries TypePolicy} {recurse again : Planner} {site : Site}

/-! ## Columns -/

theorem readAll_withTypes (leaf : Leaf) (columns : List HeaderColumn) :
    readAll (env.withTypes types) leaf columns = readAll env leaf columns := by
  induction columns with
  | nil => rfl
  | cons column rest ih =>
      rw [readAll, readAll, ih]
      rfl

theorem insertGroups_withTypes (leaf : Leaf) (type : Option DictionaryType) (target : Register)
    (groups : List Namesakes) :
    insertGroups (env.withTypes types) leaf type target groups =
      insertGroups env leaf type target groups := by
  induction groups with
  | nil => rfl
  | cons group rest ih =>
      rw [insertGroups, insertGroups, ih, readGroup, readGroup, readAll_withTypes]

theorem planUntyped_withTypes :
    planUntyped (env.withTypes types) site = planUntyped env site := by
  unfold planUntyped
  simp only [insertGroups_withTypes, readAll_withTypes]
  rfl

theorem planUntypedMember_withTypes :
    planUntypedMember (env.withTypes types) site = planUntypedMember env site := by
  rw [planUntypedMember, planUntypedMember, planUntyped_withTypes]

/-! ## Containers -/

section Members

-- What is planned below agrees on every site whose target is unmoved.
variable (agree : ∀ site : Site, site.target.Unmoved env types → again site = recurse site)
include agree

theorem planSlots_withTypes {slots : List Target}
    (each : ∀ slot ∈ slots, slot.Unmoved env types) :
    planSlots (env.withTypes types) again site slots = planSlots env recurse site slots := by
  induction slots with
  | nil => rfl
  | cons slot rest ih =>
      obtain ⟨here, behind⟩ := List.forall_mem_cons.mp each
      have first : again (site.slot (env.withTypes types) slot) = recurse (site.slot env slot) :=
        agree (site.slot env slot) here.resolve
      rw [planSlots, planSlots, first, ih behind]

theorem planTuple_withTypes (unmoved : site.target.Unmoved env types) :
    planTuple (env.withTypes types) again site = planTuple env recurse site := by
  unfold planTuple
  cases isTuple : site.target with
  | tuple slots =>
      have each : ∀ slot ∈ slots, slot.Unmoved env types := by
        rw [isTuple] at unmoved
        exact fun slot member => unmoved.part member
      simp only [planSlots_withTypes agree each]
      rfl
  | _ => rfl

section Element

variable {element : Target} (unmoved : element.Unmoved env types)
include unmoved

theorem element_withTypes :
    again (site.element (env.withTypes types) element) = recurse (site.element env element) :=
  agree (site.element env element) unmoved.resolve

theorem repeatElement_withTypes (limit : Nat) :
    repeatElement (env.withTypes types) again site element limit =
      repeatElement env recurse site element limit := by
  induction limit with
  | zero => rfl
  | succ limit ih => rw [repeatElement, repeatElement, element_withTypes agree unmoved, ih]

theorem planElements_withTypes :
    planElements (env.withTypes types) again site element =
      planElements env recurse site element := by
  unfold planElements
  simp only [readAll_withTypes, repeatElement_withTypes agree unmoved]
  rfl

theorem planItems_withTypes (type : Option SequenceType) :
    planItems (env.withTypes types) again site type element =
      planItems env recurse site type element := by
  unfold planItems
  simp only [planElements_withTypes agree unmoved]
  rfl

end Element

theorem planSequence_withTypes (unmoved : site.target.Unmoved env types) :
    planSequence (env.withTypes types) again site = planSequence env recurse site := by
  unfold planSequence
  cases isSequence : site.target with
  | list element =>
      rw [isSequence] at unmoved
      exact planItems_withTypes agree (unmoved.part (List.mem_singleton_self _)) none
  | sequence type =>
      rw [isSequence] at unmoved
      simp only [planItems_withTypes agree (unmoved.part (List.mem_singleton_self _))]
  | _ => rfl

theorem planArray_withTypes (unmoved : site.target.Unmoved env types) :
    planArray (env.withTypes types) again site = planArray env recurse site := by
  unfold planArray
  cases isArray : site.target with
  | array element =>
      rw [isArray] at unmoved
      have inner : element.Unmoved env types := unmoved.part (List.mem_singleton_self _)
      simp only [planElements_withTypes agree inner, element_withTypes agree inner]
      rfl
  | _ => rfl

section Value

variable {value : Target} (unmoved : value.Unmoved env types)
include unmoved

theorem insertSegments_withTypes (type : Option DictionaryType) (target : Register)
    (segments : List (String × String)) :
    insertSegments (env.withTypes types) again site type value target segments =
      insertSegments env recurse site type value target segments := by
  induction segments with
  | nil => rfl
  | cons entry rest ih =>
      obtain ⟨segment, key⟩ := entry
      have first : again (site.member (env.withTypes types) segment value none) =
          recurse (site.member env segment value none) :=
        agree (site.member env segment value none) unmoved.resolve
      rw [insertSegments, insertSegments, first, ih]

theorem planEntries_withTypes (type : Option DictionaryType) :
    planEntries (env.withTypes types) again site type value =
      planEntries env recurse site type value := by
  have inserts (target : Register) :
      planInserts (env.withTypes types) again site type value target =
        planInserts env recurse site type value target := by
    unfold planInserts
    simp only [insertGroups_withTypes, insertSegments_withTypes agree unmoved]
    rfl
  unfold planEntries
  simp only [inserts]
  rfl

end Value

theorem planDictionary_withTypes (unmoved : site.target.Unmoved env types) :
    planDictionary (env.withTypes types) again site = planDictionary env recurse site := by
  unfold planDictionary
  cases isMap : site.target with
  | map value =>
      rw [isMap] at unmoved
      exact planEntries_withTypes agree (unmoved.part (List.mem_singleton_self _)) none
  | dictionary type =>
      rw [isMap] at unmoved
      simp only [planEntries_withTypes agree (unmoved.part (List.mem_singleton_self _))]
  | _ => rfl

/-! ## Instances -/

omit agree in
theorem best?_withTypes (view : View) (constructors : List Constructor) :
    view.best? (env.withTypes types).settings constructors =
      view.best? env.settings constructors := by
  induction constructors with
  | nil => rfl
  | cons constructor rest ih =>
      rw [View.best?, View.best?, ih]
      rfl

omit agree in
theorem chooseConstructor_withTypes {type : ObjectType} (alike : type.MadeAlike env types) :
    chooseConstructor (env.withTypes types) site type = chooseConstructor env site type := by
  have own : ((env.withTypes types).settings.ofType? type.name).bind TypePolicy.preferred =
      (env.settings.ofType? type.name).bind TypePolicy.preferred := alike.preferred
  unfold chooseConstructor
  simp only [ObjectTypeOf.chooseConstructor, own, best?_withTypes]
  rfl

theorem planSink_withTypes {target : Target} (unmoved : target.Unmoved env types) :
    planSink (env.withTypes types) again site target = planSink env recurse site target := by
  have below (nameless : List Nat) :
      again ⟨target.resolve env.bindings, .among nameless, none, .member⟩ =
        recurse ⟨target.resolve env.bindings, .among nameless, none, .member⟩ :=
    agree ⟨target.resolve env.bindings, .among nameless, none, .member⟩ unmoved.resolve
  unfold planSink
  simp only [← below]
  rfl

theorem planArguments_withTypes {parameters : List Parameter}
    (each : ∀ parameter ∈ parameters, parameter.target.Unmoved env types) :
    planArguments (env.withTypes types) again site parameters =
      planArguments env recurse site parameters := by
  induction parameters with
  | nil => rfl
  | cons parameter rest ih =>
      obtain ⟨here, behind⟩ := List.forall_mem_cons.mp each
      have below : again (site.member (env.withTypes types) parameter.name parameter.target none) =
          recurse (site.member env parameter.name parameter.target none) :=
        agree (site.member env parameter.name parameter.target none) here.resolve
      have named : planNamedArgument (env.withTypes types) again site parameter =
          planNamedArgument env recurse site parameter := by
        unfold planNamedArgument
        rw [below]
        rfl
      rw [planArguments, planArguments, planArgument, planArgument, named,
        planSink_withTypes agree here, ih behind]

theorem planInstance_withTypes {type : ObjectType} (alike : type.MadeAlike env types)
    (factory : Option Factory) :
    planInstance (env.withTypes types) again site type factory =
      planInstance env recurse site type factory := by
  have own : ((env.withTypes types).settings.ofType? type.name).bind TypePolicy.factory =
      (env.settings.ofType? type.name).bind TypePolicy.factory := alike.factory
  unfold planInstance
  simp only [own]
  cases factory.or ((env.settings.ofType? type.name).bind TypePolicy.factory) with
  | some maker => rfl
  | none =>
      funext pass
      dsimp only
      rw [chooseConstructor_withTypes alike, bind_eq, bind_eq]
      cases chosen : chooseConstructor env site type pass with
      | mk outcome next =>
          cases outcome with
          | error failure => rfl
          | ok constructor =>
              have usable := ObjectTypeOf.chooseConstructor_usable
                (gives_chooseConstructor.mp chosen).1
              dsimp only
              rw [planArguments_withTypes agree fun parameter member =>
                alike.members _ (Target.constructor_parts usable member)]

theorem setProperties_withTypes {type : ObjectType} (alike : type.MadeAlike env types)
    (target : Register) :
    setProperties (env.withTypes types) again site type target =
      setProperties env recurse site type target := by
  have unmoved : ∀ {accepts : Property → Bool} {property : Property},
      property ∈ (type.properties.filter PropertyOf.isAssignable).filter accepts →
        property.target.Unmoved env types :=
    fun member => alike.members _ (Target.property_parts
      (List.mem_of_mem_filter (List.mem_of_mem_filter member)))
  have plain : ∀ property ∈ (type.properties.filter PropertyOf.isAssignable).filter
      fun property => !property.isSink,
      setProperty (env.withTypes types) again site target property =
        setProperty env recurse site target property := by
    intro property member
    have below (existing : Register) :
        again (site.member env property.name property.target (some existing)) =
          recurse (site.member env property.name property.target (some existing)) :=
      agree (site.member env property.name property.target (some existing))
        (unmoved member).resolve
    unfold setProperty
    simp only [← below]
    rfl
  have sinks : ∀ property ∈ (type.properties.filter PropertyOf.isAssignable).filter
      PropertyOf.isSink,
      setSink (env.withTypes types) again site target property =
        setSink env recurse site target property := by
    intro property member
    rw [setSink, setSink, planSink_withTypes agree (unmoved member)]
  rw [setProperties, setProperties, setEach_congr plain, setEach_congr sinks]

theorem planAssigned_withTypes {type : ObjectType} (alike : type.MadeAlike env types)
    (start : Program) :
    planAssigned (env.withTypes types) again site type start =
      planAssigned env recurse site type start := by
  rw [planAssigned, planAssigned, setProperties_withTypes agree alike]

theorem planConcrete_withTypes {type : ObjectType} (alike : type.MadeAlike env types)
    (factory : Option Factory) :
    planConcrete (env.withTypes types) again site type factory =
      planConcrete env recurse site type factory := by
  unfold planConcrete
  simp only [planInstance_withTypes agree alike, planAssigned_withTypes agree alike]

theorem planReused_withTypes {type : ObjectType} (alike : type.MadeAlike env types)
    (factory : Option Factory) :
    planReused (env.withTypes types) again site type factory =
      planReused env recurse site type factory := by
  unfold planReused
  simp only [planInstance_withTypes agree alike, planAssigned_withTypes agree alike]

theorem planSingle_withTypes {type : ObjectType} (own : Option TypePolicy)
    (alike : (concreteOf type own).MadeAlike env types) :
    planSingle (env.withTypes types) again site type own =
      planSingle env recurse site type own :=
  planReused_withTypes agree alike (own.bind TypePolicy.factory)

theorem planBranches_withTypes (start : Claims) {rules : List SubtypeCase}
    (each : ∀ rule ∈ rules, rule.target.objectType.MadeAlike env types) :
    planBranches (env.withTypes types) again site start rules =
      planBranches env recurse site start rules := by
  induction rules with
  | nil => rfl
  | cons rule rest ih =>
      obtain ⟨here, behind⟩ := List.forall_mem_cons.mp each
      unfold planBranches
      simp only [planConcrete_withTypes agree here, ih behind]

theorem planPolymorphic_withTypes {type : ObjectType} {own : TypePolicy}
    (configured : env.settings.ofType? type.name = some own)
    (alike : type.MadeAlike env types) :
    planPolymorphic (env.withTypes types) again site type own =
      planPolymorphic env recurse site type own := by
  have branches : ∀ rule ∈ own.subtypes, rule.target.objectType.MadeAlike env types :=
    fun rule member => (alike.members _ (Target.policy_parts configured
      (TypePolicy.subtype_targets member))).madeAlike
  have planned (start : Claims) :
      planBranches (env.withTypes types) again site start own.subtypes =
        planBranches env recurse site start own.subtypes :=
    planBranches_withTypes agree start branches
  have fallback : planFallback (env.withTypes types) again site type own =
      planFallback env recurse site type own := by
    unfold planFallback
    cases isDefault : own.default with
    | some default =>
        exact planConcrete_withTypes agree (alike.members _ (Target.policy_parts configured
          (TypePolicy.default_targets isDefault))).madeAlike none
    | none => simp only [planConcrete_withTypes agree alike]
  unfold planPolymorphic
  simp only [planned, fallback, planAssigned_withTypes agree alike]

theorem planObject_withTypes (unmoved : site.target.Unmoved env types) :
    planObject (env.withTypes types) again site = planObject env recurse site := by
  unfold planObject
  cases isObject : site.target with
  | object type =>
      rw [isObject] at unmoved
      have same : (env.withTypes types).settings.ofType? type.name =
          env.settings.ofType? type.name := unmoved.here type rfl
      have absent : isAbsent (env.withTypes types) site = isAbsent env site := rfl
      dsimp only
      rw [absent, same]
      cases configured : env.settings.ofType? type.name with
      | none => simp only [planSingle_withTypes agree none unmoved.madeAlike]
      | some own =>
          have concrete : (concreteOf type (some own)).MadeAlike env types := by
            unfold concreteOf
            cases isDefault : own.default with
            | none => simpa [isDefault] using unmoved.madeAlike
            | some default =>
                have standsIn : (Target.object default).Unmoved env types :=
                  unmoved.part (Target.policy_parts configured
                    (TypePolicy.default_targets isDefault))
                simp only [Option.bind_some, isDefault]
                split
                · exact standsIn.madeAlike
                · exact unmoved.madeAlike
          simp only [planSingle_withTypes agree (some own) concrete,
            planPolymorphic_withTypes agree configured unmoved.madeAlike]
  | _ => rfl

end Members

/-- The standard strategy plans a target alike under policies that agree on all that it reaches. -/
theorem standard_withTypes (levels : Nat) (site : Site) (unmoved : site.target.Unmoved env types) :
    standard (env.withTypes types) levels site = standard env levels site := by
  induction levels generalizing site with
  | zero => rfl
  | succ levels ih =>
      rw [standard, standard, standardPlanners, standardPlanners]
      simp only [inOrder, planUntypedMember_withTypes, planTuple_withTypes ih unmoved,
        planArray_withTypes ih unmoved, planDictionary_withTypes ih unmoved,
        planSequence_withTypes ih unmoved, planObject_withTypes ih unmoved]
      rfl

end Planning

/-! ## Without rules -/

namespace Settings

/-- The settings without the subtype rules of the types of a name. -/
def withoutRules (settings : Settings) (name : String) : Settings :=
  settings.configure name { (settings.ofType? name).getD {} with subtypes := [] }

variable {settings : Settings} {name other : String} {own : TypePolicy}

theorem ofType?_withoutRules (ruled : settings.ofType? name = some own) :
    (settings.withoutRules name).ofType? name = some { own with subtypes := [] } := by
  rw [withoutRules, ruled]
  exact Entries.get?_insert_self _ _ _

theorem ofType?_withoutRules_of_ne (different : other ≠ name) :
    (settings.withoutRules name).ofType? other = settings.ofType? other :=
  Entries.get?_insert_of_ne _ _ different

end Settings

/-- Nothing that is met below the type has its name. -/
def ObjectTypeOf.IsOutermost (bindings : Bindings) (settings : Settings) (type : ObjectType) :
    Prop :=
  ∀ part ∈ (Target.object type).parts bindings settings, ∀ inner,
    part.Reaches bindings settings (.object inner) → inner.name ≠ type.name

/-- As a single type, an outermost type is planned alike with and without its rules. -/
theorem Planning.planSingle_withoutRules {header : Header} {bindings : Bindings}
    {settings : Settings} {type : ObjectType} {own : TypePolicy}
    (ruled : settings.ofType? type.name = some own) (noDefault : own.default = none)
    (outermost : type.IsOutermost bindings (settings.withoutRules type.name)) (levels : Nat)
    (site : Site) :
    planSingle ⟨header, settings.withoutRules type.name, bindings⟩
        (standard ⟨header, settings.withoutRules type.name, bindings⟩ levels) site type
        ((settings.withoutRules type.name).ofType? type.name) =
      planSingle ⟨header, settings, bindings⟩ (standard ⟨header, settings, bindings⟩ levels) site
        type (settings.ofType? type.name) := by
  let env : Environment := ⟨header, settings.withoutRules type.name, bindings⟩
  have withRules : env.withTypes settings.types = ⟨header, settings, bindings⟩ := rfl
  have without : env.settings.ofType? type.name = some { own with subtypes := [] } :=
    Settings.ofType?_withoutRules ruled
  have found : settings.types.get? type.name = some own := ruled
  have alike : type.MadeAlike env settings.types := by
    refine ⟨?_, ?_, fun part member inner reached object isObject => ?_⟩
    · rw [without, found]
      rfl
    · rw [without, found]
      rfl
    · have different : object.name ≠ type.name := outermost part member object (isObject ▸ reached)
      exact (Settings.ofType?_withoutRules_of_ne different).symm
  have itself : (concreteOf type (some own)).MadeAlike env settings.types := by
    unfold concreteOf
    rw [Option.bind_some, noDefault]
    exact alike
  have agree : ∀ site : Site, site.target.Unmoved env settings.types →
      standard (env.withTypes settings.types) levels site = standard env levels site :=
    standard_withTypes levels
  have planned : planSingle (env.withTypes settings.types)
        (standard (env.withTypes settings.types) levels) site type (some own) =
      planSingle env (standard env levels) site type (some own) :=
    planSingle_withTypes agree (some own) itself
  rw [withRules] at planned
  rw [Settings.ofType?_withoutRules ruled, ruled, planned]
  rfl

end Unflatten
