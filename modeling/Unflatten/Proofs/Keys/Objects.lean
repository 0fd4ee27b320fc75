import Unflatten.Proofs.Conformance.Objects
import Unflatten.Proofs.Keys.Replanning

/-!
# Planning an object type again

An object type all of whose references are bound as before has the same plans, whichever
constructor, factory, default or subtype stands for it.
-/

set_option autoImplicit false

namespace Unflatten

namespace Target

/-! ## Parts of an object type -/

section Parts

variable {bindings : Bindings} {settings : Settings} {type : ObjectType}

theorem property_parts {property : Property} (member : property ∈ type.properties) :
    property.target ∈ (Target.object type).parts bindings settings :=
  List.mem_append_left _ (List.mem_append_left _ (List.mem_map_of_mem member))

theorem policy_parts {own : TypePolicy} {inner : Target}
    (configured : settings.ofType? type.name = some own) (member : inner ∈ own.targets) :
    inner ∈ (Target.object type).parts bindings settings := by
  simp only [parts, configured, Option.toList_some, List.flatMap_cons, List.flatMap_nil,
    List.append_nil]
  exact List.mem_append_right _ member

theorem constructor_parts {constructor : Constructor} {parameter : Parameter}
    (usable : UsableConstructor settings type constructor)
    (member : parameter ∈ constructor.parameters) :
    parameter.target ∈ (Target.object type).parts bindings settings := by
  have isTarget : parameter.target ∈ constructor.targets := List.mem_map_of_mem member
  rcases usable with declared | ⟨own, configured, preferred⟩
  · exact List.mem_append_left _
      (List.mem_append_right _ (List.mem_flatMap.mpr ⟨constructor, declared, isTarget⟩))
  · refine policy_parts configured (List.mem_append_left _ (List.mem_append_left _ ?_))
    simpa [preferred] using isTarget

end Parts

end Target

namespace TypePolicy

variable {own : TypePolicy}

theorem default_targets {type : ObjectType} (default : own.default = some type) :
    Target.object type ∈ own.targets :=
  List.mem_append_left _ (List.mem_append_right _ (by simp [default]))

theorem subtype_targets {rule : SubtypeCase} (member : rule ∈ own.subtypes) :
    Target.object rule.target.objectType ∈ own.targets :=
  List.mem_append_right _ (List.mem_map_of_mem member)

end TypePolicy

namespace Planning

variable {env : Environment} {header : Header} {later : Bindings} {recurse again : Planner}
variable {site : Site} {type : ObjectType}

section Objects

variable (matched : Header.Matches env.header header)
variable (recursing : Replans env later recurse again)
variable (place : Target)

/-! ## Constructor arguments -/

include matched recursing in
theorem planSink_parallel {target : Target}
    (steady : target.Steady env.bindings later env.settings) :
    Same (planSink env recurse site target)
      (planSink (env.anew header later) again (site.toward place) target) := by
  refine Parallel.bindSame (Parallel.refl claims) fun claimed => ?_
  dsimp only
  rw [matched.nameless claimed site.scope env.settings.sentinel]
  refine Parallel.branch (Parallel.refl _) ?_
  exact recursing ⟨_, _, none, .member⟩ (target.resolve later) steady.alike

include matched recursing in
theorem planNamedArgument_parallel {parameter : Parameter}
    (steady : parameter.target.Steady env.bindings later env.settings) :
    Same (planNamedArgument env recurse site parameter)
      (planNamedArgument (env.anew header later) again (site.toward place) parameter) := by
  refine Parallel.bind (find?_parallel matched site.scope _) fun column? other? same => ?_
  cases parameter.target.leaf? with
  | some leaf =>
      match column?, other?, same with
      | some column, some another, same =>
        exact Parallel.bindSame (read_parallel leaf (Option.some.inj same)) fun item =>
          Parallel.refl _
      | none, none, _ => exact Parallel.refl _
  | none =>
      have isSome : column?.isSome = other?.isSome := by
        have mapped := congrArg Option.isSome same
        rwa [Option.isSome_map, Option.isSome_map] at mapped
      dsimp only
      rw [isSome]
      refine Parallel.bindSame (hasMember_parallel matched site.scope _) fun found => ?_
      refine Parallel.branch ?_ (Parallel.refl _)
      exact recursing (site.member env parameter.name parameter.target none) _ steady.alike

include matched recursing in
theorem planArgument_parallel {parameter : Parameter}
    (steady : parameter.target.Steady env.bindings later env.settings) :
    Same (planArgument env recurse site parameter)
      (planArgument (env.anew header later) again (site.toward place) parameter) := by
  refine Parallel.bindSame (planNamedArgument_parallel matched recursing place steady)
    fun found => ?_
  cases found with
  | some program => exact Parallel.refl _
  | none =>
      dsimp only
      refine Parallel.branch ?_ (Parallel.refl _)
      refine Parallel.bindSame (planSink_parallel matched recursing place steady) fun sink? => ?_
      exact Parallel.refl _

include matched recursing in
theorem planArguments_parallel {parameters : List Parameter}
    (steady : ∀ parameter ∈ parameters,
      parameter.target.Steady env.bindings later env.settings) :
    Same (planArguments env recurse site parameters)
      (planArguments (env.anew header later) again (site.toward place) parameters) := by
  induction parameters with
  | nil => exact Parallel.refl _
  | cons parameter rest ih =>
      refine Parallel.bindSame (planArgument_parallel matched recursing place
        (steady parameter (by simp))) fun first => ?_
      exact Parallel.bindSame (ih fun other member => steady other (by simp [member]))
        fun others => Parallel.refl _

include matched in
theorem chooseConstructor_parallel :
    Parallel (fun one other => one = other ∧ UsableConstructor env.settings type one)
      (chooseConstructor env site type)
      (chooseConstructor (env.anew header later) (site.toward place) type) := by
  have views : Parallel (fun one other => ∃ claims, one = ⟨env.header, claims, site.scope⟩ ∧
      other = ⟨header, claims, site.scope⟩) (view env site.scope)
      (view (env.anew header later) site.scope) :=
    fun pass => ⟨rfl, Concurs.ok ⟨pass.claims, rfl, rfl⟩⟩
  refine Parallel.bind views fun one other same => ?_
  obtain ⟨claims, rfl, rfl⟩ := same
  rw [← ObjectTypeOf.chooseConstructor_matches matched, Environment.anew_settings]
  cases chosen : type.chooseConstructor (env.settings.ofType? type.name)
      ⟨env.header, claims, site.scope⟩ env.settings with
  | ok constructor =>
      exact Parallel.pure ⟨rfl, ObjectTypeOf.chooseConstructor_usable chosen⟩
  | error failure => exact Parallel.throw failure failure

include matched recursing in
theorem planInstance_parallel (factory : Option Factory)
    (steady : (Target.object type).Steady env.bindings later env.settings) :
    Same (planInstance env recurse site type factory)
      (planInstance (env.anew header later) again (site.toward place) type factory) := by
  unfold planInstance
  simp only [Environment.anew_settings]
  cases factory.or ((env.settings.ofType? type.name).bind TypePolicy.factory) with
  | some maker => exact Parallel.refl _
  | none =>
      refine Parallel.bind (chooseConstructor_parallel matched place)
        fun constructor other same => ?_
      obtain ⟨rfl, usable⟩ := same
      refine Parallel.bindSame (planArguments_parallel matched recursing place
        fun parameter member => steady.part (Target.constructor_parts usable member))
        fun arguments => ?_
      exact Parallel.refl _

/-! ## Properties -/

include matched recursing in
theorem setProperty_parallel (target : Register) {property : Property}
    (steady : property.target.Steady env.bindings later env.settings) :
    Same (setProperty env recurse site target property)
      (setProperty (env.anew header later) again (site.toward place) target property) := by
  unfold setProperty
  cases property.target.leaf?.filter fun leaf => !leaf.isAny with
  | some leaf =>
      refine Parallel.bind (find?_parallel matched site.scope _) fun column? other? same => ?_
      match column?, other?, same with
      | some column, some another, same =>
        exact Parallel.bindSame (read_parallel leaf (Option.some.inj same)) fun item =>
          Parallel.refl _
      | none, none, _ => exact Parallel.refl _
  | none =>
      refine Parallel.bindSame (Parallel.refl fresh) fun existing => ?_
      refine Parallel.bindSame
        (recursing (site.member env property.name property.target (some existing)) _ steady.alike)
        fun found => ?_
      exact Parallel.refl _

include matched recursing in
theorem setSink_parallel (target : Register) {property : Property}
    (steady : property.target.Steady env.bindings later env.settings) :
    Same (setSink env recurse site target property)
      (setSink (env.anew header later) again (site.toward place) target property) :=
  Parallel.bindSame (planSink_parallel matched recursing place steady) fun _ => Parallel.refl _

omit place in
theorem setEach_parallel {assign reassign : Property → Planning (List Step)}
    {properties : List Property}
    (each : ∀ property ∈ properties, Same (assign property) (reassign property)) :
    Same (setEach assign properties) (setEach reassign properties) := by
  induction properties with
  | nil => exact Parallel.refl _
  | cons property rest ih =>
      refine Parallel.bindSame (each property (by simp)) fun first => ?_
      exact Parallel.bindSame (ih fun other member => each other (by simp [member]))
        fun others => Parallel.refl _

include matched recursing in
theorem setProperties_parallel (target : Register)
    (steady : (Target.object type).Steady env.bindings later env.settings) :
    Same (setProperties env recurse site type target)
      (setProperties (env.anew header later) again (site.toward place) type target) := by
  have own : ∀ property ∈ type.properties,
      property.target.Steady env.bindings later env.settings :=
    fun property member => steady.part (Target.property_parts member)
  have assignable : ∀ {accepts : Property → Bool} {property : Property},
      property ∈ (type.properties.filter PropertyOf.isAssignable).filter accepts →
        property ∈ type.properties :=
    fun member => List.mem_of_mem_filter (List.mem_of_mem_filter member)
  refine Parallel.bindSame (setEach_parallel fun property member =>
    setProperty_parallel matched recursing place target (own property (assignable member)))
    fun plain => ?_
  refine Parallel.bindSame (setEach_parallel fun property member =>
    setSink_parallel matched recursing place target (own property (assignable member)))
    fun sinks => Parallel.refl _

/-! ## Instances -/

include matched recursing in
theorem planAssigned_parallel (start : Program)
    (steady : (Target.object type).Steady env.bindings later env.settings) :
    Same (planAssigned env recurse site type start)
      (planAssigned (env.anew header later) again (site.toward place) type start) :=
  Parallel.bindSame (setProperties_parallel matched recursing place start.result steady)
    fun _ => Parallel.refl _

include matched recursing in
theorem planConcrete_parallel (factory : Option Factory)
    (steady : (Target.object type).Steady env.bindings later env.settings) :
    Same (planConcrete env recurse site type factory)
      (planConcrete (env.anew header later) again (site.toward place) type factory) :=
  Parallel.bindSame (planInstance_parallel matched recursing place factory steady)
    fun start => planAssigned_parallel matched recursing place start steady

/-- An instance that is made only where none exists. -/
def planReused (env : Environment) (recurse : Planner) (site : Site) (type : ObjectType)
    (factory : Option Factory) : Planning Program := do
  let create ← planInstance env recurse site type factory
  let start ← reuseOrCreate site .object create
  planAssigned env recurse site type start

include matched recursing in
theorem planReused_parallel (factory : Option Factory)
    (steady : (Target.object type).Steady env.bindings later env.settings) :
    Same (planReused env recurse site type factory)
      (planReused (env.anew header later) again (site.toward place) type factory) := by
  refine Parallel.bindSame (planInstance_parallel matched recursing place factory steady)
    fun create => ?_
  refine Parallel.bindSame (Parallel.refl _) fun start => ?_
  exact planAssigned_parallel matched recursing place start steady

include matched recursing in
theorem planSingle_parallel (own : Option TypePolicy)
    (configured : env.settings.ofType? type.name = own)
    (steady : (Target.object type).Steady env.bindings later env.settings) :
    Same (planSingle env recurse site type own)
      (planSingle (env.anew header later) again (site.toward place) type own) := by
  cases default : own.bind TypePolicy.default with
  | none =>
      simp only [planSingle, default]
      exact planReused_parallel matched recursing place _ steady
  | some concrete =>
      obtain ⟨policy, rfl, isDefault⟩ := Option.bind_eq_some_iff.mp default
      have standsIn : (Target.object concrete).Steady env.bindings later env.settings :=
        steady.part (Target.policy_parts configured (TypePolicy.default_targets isDefault))
      simp only [planSingle, default]
      by_cases stands : (type.isAbstract && ((some policy).bind TypePolicy.factory).isNone) = true
      · simp only [if_pos stands]
        exact planReused_parallel matched recursing place _ standsIn
      · simp only [if_neg stands]
        exact planReused_parallel matched recursing place _ steady

include matched recursing in
theorem planBranches_parallel (start : Claims) {rules : List SubtypeCase}
    (steady : ∀ rule ∈ rules,
      (Target.object rule.target.objectType).Steady env.bindings later env.settings) :
    Same (planBranches env recurse site start rules)
      (planBranches (env.anew header later) again (site.toward place) start rules) := by
  induction rules with
  | nil => exact Parallel.refl _
  | cons rule rest ih =>
      refine Parallel.bindSame (Parallel.refl (setClaims start)) fun _ => ?_
      refine Parallel.bindSame (planConcrete_parallel matched recursing place rule.target.factory?
        (steady rule (by simp))) fun program => ?_
      refine Parallel.bindSame (Parallel.refl claims) fun claimed => ?_
      exact Parallel.bindSame (ih fun other member => steady other (by simp [member]))
        fun _ => Parallel.refl _

variable {own : TypePolicy} (configured : env.settings.ofType? type.name = some own)
variable (steady : (Target.object type).Steady env.bindings later env.settings)
include configured steady

include matched recursing in
theorem planFallback_parallel :
    Same (planFallback env recurse site type own)
      (planFallback (env.anew header later) again (site.toward place) type own) := by
  unfold planFallback
  cases default : own.default with
  | some concrete =>
      exact planConcrete_parallel matched recursing place none
        (steady.part (Target.policy_parts configured (TypePolicy.default_targets default)))
  | none =>
      exact Parallel.branch (Parallel.refl _)
        (planConcrete_parallel matched recursing place none steady)

include matched recursing in
theorem planPolymorphic_parallel :
    Same (planPolymorphic env recurse site type own)
      (planPolymorphic (env.anew header later) again (site.toward place) type own) := by
  have branches : ∀ rule ∈ own.subtypes,
      (Target.object rule.target.objectType).Steady env.bindings later env.settings :=
    fun rule member =>
      steady.part (Target.policy_parts configured (TypePolicy.subtype_targets member))
  refine Parallel.bindSame (Parallel.refl claims) fun start => ?_
  refine Parallel.bindSame (planBranches_parallel matched recursing place start branches)
    fun planned => ?_
  refine Parallel.bindSame (Parallel.refl (setClaims start)) fun _ => ?_
  refine Parallel.bindSame (planFallback_parallel matched recursing place configured steady)
    fun fallback => ?_
  refine Parallel.bindSame (Parallel.refl claims) fun fallbackClaims => ?_
  refine Parallel.bindSame (Parallel.refl fresh) fun into => ?_
  dsimp only [Site.toward_existing]
  cases site.existing with
  | none => exact Parallel.refl _
  | some existing =>
      refine Parallel.bindSame (Parallel.refl (setClaims start)) fun _ => ?_
      refine Parallel.bindSame (planAssigned_parallel matched recursing place
        (Program.keep existing) steady) fun update => ?_
      exact Parallel.refl _

end Objects

theorem planObject_replans (matched : Header.Matches env.header header)
    (recursing : Replans env later recurse again) :
    Replans env later (planObject env recurse) (planObject (env.anew header later) again) := by
  intro site other alike
  unfold planObject
  rw [Site.toward_target]
  cases found : site.target with
  | object declared =>
      rw [found] at alike
      cases alike with
      | object _ steady =>
          refine Parallel.bindSame (isAbsent_parallel matched) fun absent => ?_
          refine Parallel.branch (Parallel.refl _) ?_
          dsimp only [Environment.anew_settings]
          cases configured : env.settings.ofType? declared.name with
          | none =>
              exact Parallel.bindSame (planSingle_parallel matched recursing _ none configured
                steady) fun _ => Parallel.refl _
          | some own =>
              refine Parallel.branch ?_ ?_
              · exact Parallel.bindSame (planSingle_parallel matched recursing _ (some own)
                  configured steady) fun _ => Parallel.refl _
              · exact Parallel.bindSame (planPolymorphic_parallel matched recursing _ configured
                  steady) fun _ => Parallel.refl _
  | _ =>
      rw [found] at alike
      cases alike
      exact Parallel.refl _

end Planning

end Unflatten
