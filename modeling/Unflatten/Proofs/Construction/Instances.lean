import Unflatten.Proofs.Construction.Flat
import Unflatten.Mapper

/-!
# Mapping flat types

A mapper of a flat type fills the instance with all cells, whatever part of them goes through the
constructor: the constructor fills the properties of its parameters, and the properties that are set
afterwards find the other columns.
-/

set_option autoImplicit false

namespace Unflatten

namespace Planning

variable {env : Environment} {recurse : Planner} {row : Row} {site : Site} {pass next : Pass}
variable {type : ObjectType} {names : List String}

/-! ## Instances -/

section Instances

variable {target : Register} {levels : Nat}
variable (flat : type.IsFlat) (atRoot : site.scope = .root)
variable (suits : env.header.Suits type env.settings.separator)
include flat

theorem Settles.alters {property : Property} {steps : List Step} {object : Object}
    (settles : Settles env row target property names steps next)
    (isProperty : property ∈ type.properties)
    (isObject : type.reached? (env.header.cells env.rules row) names = some object) :
    Alters row target steps next object.toValue
      ((type.reached? (env.header.cells env.rules row) (foldName property.name :: names)).map
        Object.toValue) := by
  obtain ⟨-, ⟨rfl, done⟩ | ⟨unknown, sets⟩⟩ := settles
  · have same : type.reached? (env.header.cells env.rules row) (foldName property.name :: names) =
        some object := by
      rw [← isObject]
      by_cases known : foldName property.name ∈ names
      · exact ObjectTypeOf.reached?_known known
      · exact ObjectTypeOf.reached?_default flat isProperty known (done.resolve_left known)
    rw [same]
    exact Alters.nil
  · rw [ObjectTypeOf.reached?_cons flat isProperty, isObject, Option.bind_some, Option.map_map]
    exact sets object.toValue

include atRoot suits

theorem setProperty_settles {property : Property} (isProperty : property ∈ type.properties)
    (sized : pass.claims.length = env.header.length) (known : target < pass.nextRegister)
    (taken : env.header.Taken pass.claims names)
    (typed : foldName property.name ∈ names → property.target.isAny = false) :
    ∃ steps next,
      Gives (setProperty env (standard env (levels + 1)) site target property) pass steps next ∧
      Settles env row target property names steps next := by
  obtain ⟨leaf, isLeaf⟩ := Option.isSome_iff_exists.mp (flat.leaves property isProperty)
  cases isAny : leaf.isAny with
  | false => exact setProperty_scalar_settles atRoot suits sized known taken isLeaf isAny
  | true =>
      exact setProperty_untyped_settles atRoot suits sized known taken isProperty isLeaf isAny typed

theorem setEach_alters {properties : List Property}
    (members : ∀ property ∈ properties, property ∈ type.properties)
    (distinct : properties.Pairwise fun one other => foldName one.name ≠ foldName other.name)
    (sized : pass.claims.length = env.header.length) (known : target < pass.nextRegister)
    (taken : env.header.Taken pass.claims names)
    (typed : ∀ property ∈ properties,
      foldName property.name ∈ names → property.target.isAny = false) :
    ∃ steps next,
      Gives (setEach (setProperty env (standard env (levels + 1)) site target) properties) pass
        steps next ∧
      ∀ object, type.reached? (env.header.cells env.rules row) names = some object →
        Alters row target steps next object.toValue
          ((type.reached? (env.header.cells env.rules row)
            (properties.map (fun property => foldName property.name) ++ names)).map
              Object.toValue) := by
  have reliable := standard_reliable suits.indexed (levels + 1)
  have planned {property : Property} {pass next : Pass} {steps : List Step}
      (sized : pass.claims.length = env.header.length) (known : target < pass.nextRegister)
      (given : Gives (setProperty env (standard env (levels + 1)) site target property) pass steps
        next) : Block [target] [target] pass steps next :=
    setProperty_planned suits.indexed reliable sized known given
  induction properties generalizing pass names with
  | nil =>
      refine ⟨[], pass, gives_pure.mpr ⟨rfl, rfl⟩, fun object isObject => ?_⟩
      rw [List.map_nil, List.nil_append, isObject]
      exact Alters.nil
  | cons property rest ih =>
      obtain ⟨apart, distinct⟩ := List.pairwise_cons.mp distinct
      obtain ⟨first, middle, set, settles⟩ := setProperty_settles flat atRoot suits
        (members property (by simp)) sized known taken (typed property (by simp))
      have onward := (planned sized known set).onward
      have stillSized := onward.length.trans sized
      have stillKnown := Nat.lt_of_lt_of_le known onward.registers
      have stillTyped : ∀ other ∈ rest,
          foldName other.name ∈ foldName property.name :: names → other.target.isAny = false := by
        intro other member isTaken
        rcases List.mem_cons.mp isTaken with same | isTaken
        · exact absurd same.symm (apart other member)
        · exact typed other (by simp [member]) isTaken
      obtain ⟨others, next, setRest, alters⟩ := ih
        (fun other member => members other (by simp [member])) distinct stillSized stillKnown
        settles.1 stillTyped
      have upward := (setEach_planned planned stillSized stillKnown setRest).onward
      refine ⟨first ++ others, next, setEach_next set setRest, fun object isObject => ?_⟩
      rw [List.map_cons, List.cons_append, ObjectTypeOf.reached?_middle]
      refine Alters.append upward.registers
        (settles.alters flat (members property (by simp)) isObject) ?_ ?_
      · intro value reached
        obtain ⟨further, isFurther, rfl⟩ := Option.map_eq_some_iff.mp reached
        exact alters further isFurther
      · intro failed
        rw [Option.map_eq_none_iff] at failed ⊢
        exact ObjectTypeOf.reached?_none
          (fun name member => List.mem_append_right _ member) failed

theorem setProperties_alters (sized : pass.claims.length = env.header.length)
    (known : target < pass.nextRegister) (taken : env.header.Taken pass.claims names)
    (typed : ∀ property ∈ type.properties,
      foldName property.name ∈ names → property.target.isAny = false) :
    ∃ steps next,
      Gives (setProperties env (standard env (levels + 1)) site type target) pass steps next ∧
      ∀ object, type.reached? (env.header.cells env.rules row) names = some object →
        Alters row target steps next object.toValue
          ((type.reached? (env.header.cells env.rules row)
            (type.properties.map fun property => foldName property.name)).map Object.toValue) := by
  obtain ⟨steps, next, set, alters⟩ := setEach_alters flat atRoot suits
    (fun property member => member) flat.distinct sized known taken typed
  refine ⟨steps, next, setProperties_all flat.assignable flat.noSinks set,
    fun object isObject => ?_⟩
  have all : type.reached? (env.header.cells env.rules row)
        (type.properties.map (fun property => foldName property.name) ++ names) =
      type.reached? (env.header.cells env.rules row)
        (type.properties.map fun property => foldName property.name) := by
    apply ObjectTypeOf.reached?_congr
    intro property member
    exact ⟨fun _ => List.mem_map.mpr ⟨property, member, rfl⟩, List.mem_append_left names⟩
  rw [← all]
  exact alters object isObject

theorem planInstance_evaluates {constructor : Constructor}
    (fills : constructor.Fills type env.header) (reliable : Reliable env recurse)
    (unmade : (env.settings.ofType? type.name).bind TypePolicy.factory = none)
    (chosen : type.chooseConstructor (env.settings.ofType? type.name)
      ⟨env.header, pass.claims, site.scope⟩ env.settings = .ok constructor)
    (sized : pass.claims.length = env.header.length) (taken : env.header.Taken pass.claims []) :
    ∃ program next, Gives (planInstance env recurse site type none) pass program next ∧
      Evaluates row none program next
        ((type.reached? (env.header.cells env.rules row)
          (constructor.parameters.map fun parameter => foldName parameter.name)).map
            Object.toValue) ∧
      env.header.Taken next.claims
        (constructor.parameters.map fun parameter => foldName parameter.name) := by
  obtain ⟨arguments, middle, planned, gathers, takenNext⟩ := planArguments_gathers atRoot suits row
    reliable (fun parameter member => fills.leaf flat member) fills.sinks fills.distinct sized taken
    (by simp)
  have builds := gathers.constructs type constructor
  have stored :=
    @ObjectTypeOf.IsFlat.bindArguments env.header env.rules row _ flat _ fills.areFor []
  rw [ObjectTypeOf.reached?_nil, Option.bind_some, List.append_nil] at stored
  simp only [ConstructorOf.construct, fills.stores] at builds
  rw [← Function.comp_def Object.toValue, ← Option.map_map, stored] at builds
  rw [List.append_nil] at takenNext
  exact ⟨_, _, planInstance_constructs unmade chosen planned, builds, takenNext⟩

/-! ## Objects -/

theorem planSingle_evaluates {constructor : Constructor}
    (fills : constructor.Fills type env.header)
    (unmade : (env.settings.ofType? type.name).bind TypePolicy.factory = none)
    (chosen : type.chooseConstructor (env.settings.ofType? type.name)
      ⟨env.header, pass.claims, site.scope⟩ env.settings = .ok constructor)
    (sized : pass.claims.length = env.header.length) (taken : env.header.Taken pass.claims [])
    (known : ∀ register, site.existing = some register → register < pass.nextRegister) :
    ∃ program next,
      Gives (planSingle env (standard env (levels + 1)) site type
        (env.settings.ofType? type.name)) pass program next ∧
      Evaluates row site.existing program next
        ((type.reached? (env.header.cells env.rules row)
          (type.properties.map fun property => foldName property.name)).map Object.toValue) := by
  have reliable := standard_reliable suits.indexed (levels + 1)
  have concrete : concreteOf type (env.settings.ofType? type.name) = type := by
    unfold concreteOf
    split
    · simp [flat.isConcrete]
    · rfl
  obtain ⟨create, middle, created, creates, takenNext⟩ :=
    planInstance_evaluates flat atRoot suits fills reliable unmade chosen sized taken
  obtain ⟨start, between, started, starts, sameClaims⟩ :=
    reuseOrCreate_evaluates site .object creates
  have isNew := planInstance_planned suits.indexed reliable sized created
  have planned := reuseOrCreate_planned known isNew started
  have stillSized := planned.block.onward.length.trans sized
  rw [← sameClaims] at takenNext
  obtain ⟨assigns, next, set, alters⟩ := setProperties_alters flat atRoot suits stillSized
    planned.below takenNext fun property member => fills.typed_property flat member
  have onward := (setProperties_planned suits.indexed reliable stillSized planned.below set).onward
  refine ⟨_, next, planSingle_assigned concrete unmade created started set, ?_⟩
  refine Evaluates.filled onward.registers starts ?_ ?_
  · intro value reached
    obtain ⟨object, isObject, rfl⟩ := Option.map_eq_some_iff.mp reached
    exact alters object isObject
  · intro failed
    rw [Option.map_eq_none_iff] at failed ⊢
    refine ObjectTypeOf.reached?_none (fun name member => ?_) failed
    obtain ⟨parameter, isParameter, rfl⟩ := List.mem_map.mp member
    obtain ⟨property, isProperty, isFor⟩ := fills.areFor parameter isParameter
    exact List.mem_map.mpr ⟨property, isProperty, isFor.folded⟩

theorem planObject_evaluates {constructor : Constructor} (isRoot : site.role = .root)
    (isObject : site.target = .object type) (fills : constructor.Fills type env.header)
    (unmade : ∀ own, env.settings.ofType? type.name = some own →
      own.factory = none ∧ own.subtypes = [])
    (chosen : type.chooseConstructor (env.settings.ofType? type.name)
      ⟨env.header, pass.claims, site.scope⟩ env.settings = .ok constructor)
    (sized : pass.claims.length = env.header.length) (taken : env.header.Taken pass.claims [])
    (known : ∀ register, site.existing = some register → register < pass.nextRegister) :
    ∃ program next,
      Gives (planObject env (standard env (levels + 1)) site) pass (some program) next ∧
      Evaluates row site.existing program next
        ((type.reached? (env.header.cells env.rules row)
          (type.properties.map fun property => foldName property.name)).map Object.toValue) := by
  have noFactory : (env.settings.ofType? type.name).bind TypePolicy.factory = none := by
    cases own : env.settings.ofType? type.name with
    | none => rfl
    | some policy => exact (unmade policy own).1
  have present : (!site.isRoot && (env.header.available pass.claims site.scope).isEmpty) =
      false := by
    rw [Site.isRoot, isRoot]
    rfl
  obtain ⟨program, next, single, evaluates⟩ := @planSingle_evaluates env row _ _ _ levels
    flat atRoot suits constructor fills noFactory chosen sized taken known
  exact ⟨program, next,
    planObject_single isObject present (fun own found => (unmade own found).2) single, evaluates⟩

end Instances

end Planning

/-! ## Mappers -/

theorem Mapper.map_filled {settings : Settings} {bindings : Bindings} {columns : List Column}
    {type : ObjectType} {constructor : Constructor} (flat : type.IsFlat)
    (suits : (Header.ofColumns columns).Suits type settings.separator)
    (fills : constructor.Fills type (Header.ofColumns columns))
    (unmade : ∀ own, settings.ofType? type.name = some own →
      own.factory = none ∧ own.subtypes = [])
    (chosen : type.chooseConstructor (settings.ofType? type.name)
      ⟨Header.ofColumns columns, Claims.none (Header.ofColumns columns), .root⟩ settings =
        .ok constructor) :
    ∃ mapper,
      Mapper.make .standard bindings (.object type) (Header.ofColumns columns) settings =
        .ok mapper ∧
      ∀ row, (mapper.map row).toOption =
        (type.reached?
          ((Header.ofColumns columns).cells (ConversionRule.inOrder settings.rules) row)
          (type.properties.map fun property => foldName property.name)).map Object.toValue := by
  let env : Environment := ⟨Header.ofColumns columns, settings, bindings⟩
  let start : Pass := ⟨Claims.none env.header, existingRegister + 1⟩
  have sized : start.claims.length = env.header.length := by
    simp [start, Claims.none]
  have known : ∀ register, (Site.atRoot bindings (.object type)).existing = some register →
      register < start.nextRegister :=
    Register.known_existing rfl (Nat.lt_succ_self _)
  have planned (row : Row) := @Planning.planObject_evaluates env row
    (Site.atRoot bindings (.object type)) start type 63 flat rfl suits constructor rfl rfl fills
    unmade chosen sized Header.Taken.none known
  obtain ⟨program, next, given, -⟩ := planned ⟨[], []⟩
  have whole :
      Planning.standard env (deepestLevel + 1) (Site.atRoot bindings (.object type)) start =
        (.ok (some program), next) :=
    Planning.standardPlanners_object rfl given
  have started : 0 < next.nextRegister := by
    have reliable := @Planning.standard_reliable env suits.indexed (deepestLevel + 1)
    have onward := (reliable.plans sized known whole).block.onward.registers
    exact Nat.lt_of_lt_of_le (Nat.succ_pos _) onward
  have made : Plan.ofTarget .standard env (.object type) =
      .ok (Plan.ofProgram program next.nextRegister) := by
    unfold Plan.ofTarget Planning.planWith
    simp only []
    rw [whole]
  refine ⟨⟨.object type, Plan.ofProgram program next.nextRegister⟩, ?_, fun row => ?_⟩
  · rw [Mapper.make, made]
    rfl
  · obtain ⟨same, after, alsoGiven, evaluates⟩ := planned row
    cases given.symm.trans alsoGiven
    exact Plan.run_evaluates evaluates started (Nat.le_max_left _ _)

end Unflatten
