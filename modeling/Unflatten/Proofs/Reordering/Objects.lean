import Unflatten.Proofs.Keys.Objects
import Unflatten.Proofs.Planning.Block
import Unflatten.Proofs.Reordering.Lockstep

/-!
# Objects from rearranged columns

Object types take columns by their names, and so do their members as long as these are object types
and typed leaves. They are planned in lockstep for rearranged columns.
-/

set_option autoImplicit false

namespace Unflatten

/-! ## Targets that take columns by name -/

/-- Object types that make their own instances, and typed leaves. References stand for object
types. -/
def Target.TakesByName (settings : Settings) : Target → Prop
  | .object type =>
    ∀ own, settings.ofType? type.name = some own → own.factory = none ∧ own.subtypes = []
  | .reference _ => True
  | target => ∃ leaf, target.leaf? = some leaf ∧ leaf.isAny = false

/-- All that is planned for the target takes columns by name. -/
def Target.AllByName (bindings : Bindings) (settings : Settings) (target : Target) : Prop :=
  target.Everywhere bindings settings (Target.TakesByName settings)

namespace Target.AllByName

variable {bindings : Bindings} {settings : Settings} {target inner : Target}

theorem typed (byName : target.AllByName bindings settings) {leaf : Leaf}
    (isLeaf : target.leaf? = some leaf) : leaf.isAny = false := by
  have here := byName.here
  cases target with
  | object | reference => cases isLeaf
  | _ =>
      obtain ⟨found, isFound, typed⟩ := here
      rw [isLeaf] at isFound
      cases isFound
      exact typed

theorem untyped (byName : target.AllByName bindings settings) : target.isAny = false := by
  have untyped (isLeaf : target.leaf? = some ⟨.any, true⟩) : False := by
    cases byName.typed isLeaf
  cases target with
  | any | dynamic => exact (untyped rfl).elim
  | _ => rfl

end Target.AllByName

/-- The same settings and bindings for other columns. -/
def Environment.over (env : Environment) (header : Header) : Environment :=
  { env with header }

@[simp] theorem Environment.over_settings (env : Environment) (header : Header) :
    (env.over header).settings = env.settings := rfl

@[simp] theorem Environment.over_bindings (env : Environment) (header : Header) :
    (env.over header).bindings = env.bindings := rfl

@[simp] theorem Environment.over_header (env : Environment) (header : Header) :
    (env.over header).header = header := rfl

/-- One place in the tree of targets, seen from either header. -/
structure Site.Tally (header others : Header) (site another : Site) : Prop where
  target : another.target = site.target
  existing : another.existing = site.existing
  role : another.role = site.role
  scope : Scope.Tally header others site.scope another.scope

/-- A leaf has one column to choose from at most. -/
def Site.Settled (header : Header) (site : Site) : Prop :=
  site.target.isLeaf = true → ∀ one ∈ header, ∀ other ∈ header,
    site.scope.contains one = true → site.scope.contains other = true → one = other

namespace Planning

variable {row other : Row} {env : Environment} {others : Header}
variable {site another : Site} {recurse again : Planner} {type : ObjectType}

/-- Both planners go in lockstep at places where columns are taken by name. -/
def GoesWith (row other : Row) (env : Environment) (others : Header) (planner again : Planner) :
    Prop :=
  ∀ site another, Site.Tally env.header others site another → site.Settled env.header →
    site.target.AllByName env.bindings env.settings →
    Lockstep env.header others (Option.Rel (Program.Repeats row other)) (planner site)
      (again another)

section Columns

variable (rearranged : Header.Rearranged row other env.header others)
variable (tally : Site.Tally env.header others site another)
include rearranged

theorem read_lockstep (leaf : Leaf) {column twin : HeaderColumn} (isColumn : column ∈ env.header)
    (isTwin : twin ∈ others) (same : column.Twin row other twin) :
    Lockstep env.header others (Program.Repeats row other) (read env column leaf)
      (read (env.over others) twin leaf) := by
  intro pass later tally
  have inside : column.index < pass.claims.length := by
    rw [tally.claims.sized]
    exact rearranged.indexed.inside isColumn
  have twinInside : twin.index < later.claims.length := by
    rw [tally.claims.othersSized]
    exact rearranged.othersIndexed.inside isTwin
  have marks : Claims.Tally env.header others (pass.claims.claim column.index)
      (later.claims.claim twin.index) := by
    refine ⟨Claims.length_claim.trans tally.claims.sized,
      Claims.length_claim.trans tally.claims.othersSized, fun one isOne two isTwo folded => ?_⟩
    have known : two.index = twin.index ↔ one.index = column.index := by
      constructor
      · intro index
        have identical := List.inj_on_of_nodup_map rearranged.othersIndexed.nodup isTwo isTwin index
        rw [identical, same.folded] at folded
        rw [rearranged.apart one isOne column isColumn folded.symm]
      · intro index
        have identical := List.inj_on_of_nodup_map rearranged.indexed.nodup isOne isColumn index
        rw [identical, ← same.folded] at folded
        rw [rearranged.othersApart two isTwo twin isTwin folded]
    rw [Bool.eq_iff_iff, Claims.isClaimed_claim twinInside, Claims.isClaimed_claim inside, known,
      tally.claims.marks one isOne two isTwo folded]
  have converted (registers : Registers) :
      runStep other registers
          (.read ⟨twin.index, twin.name⟩ (Conversion.select env.rules leaf twin.type)
            pass.nextRegister) =
        runStep row registers
          (.read ⟨column.index, column.name⟩ (Conversion.select env.rules leaf column.type)
            pass.nextRegister) := by
    rw [runStep, runStep, same.type, readColumn, readColumn, same.name, same.cell]
  have repeats : Program.Repeats row other
      (Program.single (.read ⟨column.index, column.name⟩
        (Conversion.select env.rules leaf column.type) pass.nextRegister) pass.nextRegister)
      (Program.single (.read ⟨twin.index, twin.name⟩
        (Conversion.select env.rules leaf twin.type) later.nextRegister) later.nextRegister) := by
    rw [tally.registers]
    exact Program.Repeats.single (Repeats.single (by rw [Step.span, Step.span]) converted)
  exact ⟨⟨congrArg (· + 1) tally.registers, marks⟩, .ok repeats⟩

include tally

theorem isAbsent_lockstep :
    Lockstep env.header others Eq (isAbsent env site) (isAbsent (env.over others) another) := by
  intro pass later passes
  have roots : another.isRoot = site.isRoot := by
    rw [Site.isRoot, Site.isRoot, tally.role]
  have empty := rearranged.available_isEmpty passes.claims tally.scope
  refine ⟨passes, .ok ?_⟩
  rw [Environment.over_header, roots, empty]

theorem find?_lockstep (localName : String) :
    Lockstep env.header others
      (Option.Rel fun column twin => column ∈ env.header ∧ twin ∈ others ∧
        column.Twin row other twin)
      (find? env site.scope localName) (find? (env.over others) another.scope localName) :=
  fun _ _ passes => ⟨passes, .ok (rearranged.find? passes.claims tally.scope localName)⟩

theorem hasMember_lockstep (name : String) :
    Lockstep env.header others Eq (hasMember env site.scope name)
      (hasMember (env.over others) another.scope name) :=
  fun _ _ passes => ⟨passes,
    .ok (rearranged.hasMember passes.claims tally.scope name env.settings.separator).symm⟩

theorem chooseConstructor_lockstep :
    Lockstep env.header others
      (fun one other => one = other ∧ UsableConstructor env.settings type one)
      (chooseConstructor env site type) (chooseConstructor (env.over others) another type) := by
  have views : Lockstep env.header others
      (fun one other => ∃ claims again, Claims.Tally env.header others claims again ∧
        one = ⟨env.header, claims, site.scope⟩ ∧ other = ⟨others, again, another.scope⟩)
      (view env site.scope) (view (env.over others) another.scope) :=
    fun pass later passes => ⟨passes, .ok ⟨pass.claims, later.claims, passes.claims, rfl, rfl⟩⟩
  refine Lockstep.bind views fun one other same => ?_
  obtain ⟨claims, again, marks, rfl, rfl⟩ := same
  rw [Environment.over_settings, rearranged.chooseConstructor marks tally.scope]
  cases chosen : type.chooseConstructor (env.settings.ofType? type.name)
      ⟨env.header, claims, site.scope⟩ env.settings with
  | ok constructor =>
      exact Lockstep.pure ⟨rfl, ObjectTypeOf.chooseConstructor_usable chosen⟩
  | error failure => exact Lockstep.throw failure

end Columns

theorem constant_lockstep (value : Value) :
    Lockstep env.header others (Program.Repeats row other) (constant value) (constant value) :=
  Lockstep.bindSame Lockstep.fresh fun _ =>
    Lockstep.pure (Program.Repeats.single (Repeats.refl_of fun _ => by rw [runStep, runStep]))

theorem reuseOrCreate_lockstep {expectation : Expectation} {create createAgain : Program}
    (tally : Site.Tally env.header others site another)
    (creates : Program.Repeats row other create createAgain) :
    Lockstep env.header others (Program.Repeats row other)
      (reuseOrCreate site expectation create) (reuseOrCreate another expectation createAgain) := by
  unfold reuseOrCreate
  rw [tally.existing]
  cases site.existing with
  | none => exact Lockstep.pure creates
  | some existing =>
      refine Lockstep.bindSame Lockstep.fresh fun into => Lockstep.pure ?_
      exact Program.Repeats.single (Repeats.reuse (Program.Repeats.keep existing) creates)

/-! ## Leaves -/

theorem planLeaf_lockstep (rearranged : Header.Rearranged row other env.header others) :
    GoesWith row other env others (planLeaf env) (planLeaf (env.over others)) := by
  intro site another tally settled byName
  unfold planLeaf
  rw [tally.target]
  cases isLeaf : site.target.leaf? with
  | none => exact Lockstep.pure .none
  | some leaf =>
      have single := settled (by rw [Target.isLeaf, isLeaf]; rfl)
      have offered : Lockstep env.header others
          (fun columns twins => Option.Rel (fun column twin => column ∈ env.header ∧
            twin ∈ others ∧ column.Twin row other twin) columns.head? twins.head?)
          (available env site.scope) (available (env.over others) another.scope) :=
        fun _ _ passes => ⟨passes, .ok (rearranged.head? passes.claims tally.scope single)⟩
      have roots : another.isRoot = site.isRoot := by
        rw [Site.isRoot, Site.isRoot, tally.role]
      refine Lockstep.bind offered fun columns twins found => ?_
      generalize columns.head? = column? at found
      generalize twins.head? = twin? at found
      cases found with
      | some same =>
          exact Lockstep.bind (read_lockstep rearranged leaf same.1 same.2.1 same.2.2)
            fun _ _ repeats => Lockstep.pure (.some repeats)
      | none =>
          dsimp only
          rw [roots]
          refine Lockstep.branch ?_ (Lockstep.pure .none)
          exact Lockstep.bind (constant_lockstep _) fun _ _ repeats =>
            Lockstep.pure (.some repeats)

section Members

variable (rearranged : Header.Rearranged row other env.header others)
variable (tally : Site.Tally env.header others site another)
variable (recursing : GoesWith row other env others recurse again)
include rearranged recursing tally

/-! ## Constructor arguments -/

theorem planSink_lockstep {target : Target}
    (byName : target.AllByName env.bindings env.settings) :
    Lockstep env.header others (Option.Rel (Program.Repeats row other))
      (planSink env recurse site target) (planSink (env.over others) again another target) := by
  refine Lockstep.bind Lockstep.claims fun marks later same => ?_
  dsimp only [Environment.over_settings, Environment.over_header, Environment.over_bindings]
  rw [rearranged.nameless_isEmpty same tally.scope]
  refine Lockstep.branch (Lockstep.pure .none) ?_
  refine recursing _ _ ⟨rfl, rfl, rfl, rearranged.nameless_tally same tally.scope _⟩
    (fun _ one isOne two isTwo => ?_) byName.resolve
  exact rearranged.apart.nameless rearranged.indexed isOne isTwo

theorem planNamedArgument_lockstep {parameter : Parameter}
    (byName : parameter.target.AllByName env.bindings env.settings) :
    Lockstep env.header others (Option.Rel (Program.Repeats row other))
      (planNamedArgument env recurse site parameter)
      (planNamedArgument (env.over others) again another parameter) := by
  refine Lockstep.bind (find?_lockstep rearranged tally _) fun column? twin? found => ?_
  cases isLeaf : parameter.target.leaf? with
  | some leaf =>
      cases found with
      | none => exact Lockstep.pure .none
      | some same =>
          exact Lockstep.bind (read_lockstep rearranged leaf same.1 same.2.1 same.2.2)
            fun _ _ repeats => Lockstep.pure (.some repeats)
  | none =>
      have isSome : twin?.isSome = column?.isSome := by
        cases found with
        | none => rfl
        | some _ => rfl
      dsimp only
      rw [isSome]
      refine Lockstep.bindSame (hasMember_lockstep rearranged tally _) fun present => ?_
      refine Lockstep.branch ?_ (Lockstep.pure .none)
      refine recursing _ _ ⟨rfl, rfl, rfl, tally.scope.member _ _⟩ (fun leafTarget => ?_)
        byName.resolve
      rw [Site.member, Target.isLeaf, Target.leaf?_resolve, isLeaf] at leafTarget
      cases leafTarget

theorem planArgument_lockstep {parameter : Parameter}
    (byName : parameter.target.AllByName env.bindings env.settings) :
    Lockstep env.header others (Program.Repeats row other)
      (planArgument env recurse site parameter)
      (planArgument (env.over others) again another parameter) := by
  refine Lockstep.bind (planNamedArgument_lockstep rearranged tally recursing byName)
    fun one two found => ?_
  cases found with
  | some repeats => exact Lockstep.pure repeats
  | none =>
      refine Lockstep.branch ?_ (constant_lockstep _)
      refine Lockstep.bind (planSink_lockstep rearranged tally recursing byName)
        fun one two found => ?_
      cases found with
      | some repeats => exact Lockstep.pure repeats
      | none => exact constant_lockstep _

theorem planArguments_lockstep {parameters : List Parameter}
    (byName : ∀ parameter ∈ parameters,
      parameter.target.AllByName env.bindings env.settings) :
    Lockstep env.header others (List.Forall₂ (Program.Repeats row other))
      (planArguments env recurse site parameters)
      (planArguments (env.over others) again another parameters) := by
  induction parameters with
  | nil => exact Lockstep.pure .nil
  | cons parameter rest ih =>
      refine Lockstep.bind (planArgument_lockstep rearranged tally recursing
        (byName parameter (by simp))) fun _ _ first => ?_
      exact Lockstep.bind (ih fun other member => byName other (by simp [member]))
        fun _ _ others => Lockstep.pure (.cons first others)

theorem planInstance_lockstep
    (unmade : (env.settings.ofType? type.name).bind TypePolicy.factory = none)
    (byName : (Target.object type).AllByName env.bindings env.settings) :
    Lockstep env.header others (Program.Repeats row other)
      (planInstance env recurse site type none)
      (planInstance (env.over others) again another type none) := by
  unfold planInstance
  rw [Environment.over_settings, unmade]
  refine Lockstep.bind (chooseConstructor_lockstep rearranged tally) fun constructor two same => ?_
  obtain ⟨rfl, usable⟩ := same
  refine Lockstep.bind (planArguments_lockstep rearranged tally recursing
    fun parameter member => byName.part (Target.constructor_parts usable member))
    fun arguments argumentsAgain repeats => ?_
  refine Lockstep.bindSame Lockstep.fresh fun into => Lockstep.pure ⟨rfl, ?_⟩
  obtain ⟨steps, results⟩ := Repeats.flatMap repeats
  rw [results]
  exact steps.append (Repeats.refl_of fun registers => by rw [runStep, runStep])

/-! ## Properties -/

omit rearranged recursing tally in
theorem setSteps_repeats (target : Register) (field : String) {value valueAgain : Option Program}
    (repeats : Option.Rel (Program.Repeats row other) value valueAgain) :
    Repeats row other (setSteps target field value) (setSteps target field valueAgain) := by
  cases repeats with
  | none => exact Repeats.nil
  | some repeats =>
      rw [setSteps, setSteps, repeats.result]
      exact repeats.steps.append (Repeats.refl_of fun registers => by rw [runStep, runStep])

theorem setProperty_lockstep (target : Register) {property : Property}
    (byName : property.target.AllByName env.bindings env.settings) :
    Lockstep env.header others (Repeats row other)
      (setProperty env recurse site target property)
      (setProperty (env.over others) again another target property) := by
  unfold setProperty
  cases isScalar : property.target.leaf?.filter fun leaf => !leaf.isAny with
  | some leaf =>
      refine Lockstep.bind (find?_lockstep rearranged tally _) fun column? twin? found => ?_
      cases found with
      | none => exact Lockstep.pure Repeats.nil
      | some same =>
          exact Lockstep.bind (read_lockstep rearranged leaf same.1 same.2.1 same.2.2)
            fun _ _ repeats => Lockstep.pure (setSteps_repeats target property.name (.some repeats))
  | none =>
      refine Lockstep.bindSame Lockstep.fresh fun existing => ?_
      have noLeaf : (Site.member env site property.name property.target (some existing)).Settled
          env.header := by
        intro isLeaf
        rw [Site.member, Target.isLeaf, Target.leaf?_resolve, Option.isSome_iff_exists] at isLeaf
        obtain ⟨leaf, isLeaf⟩ := isLeaf
        have typed := byName.typed isLeaf
        rw [isLeaf, Option.filter_some, typed] at isScalar
        cases isScalar
      refine Lockstep.bind (recursing _ _ ⟨rfl, rfl, rfl, tally.scope.member _ _⟩ noLeaf
        byName.resolve) fun one two found => ?_
      cases found with
      | none => exact Lockstep.pure Repeats.nil
      | some repeats =>
          refine Lockstep.pure (Repeats.cons (Repeats.refl_of fun registers => ?_)
            (setSteps_repeats target property.name (.some repeats)))
          rw [runStep, runStep]

theorem setSink_lockstep (target : Register) {property : Property}
    (byName : property.target.AllByName env.bindings env.settings) :
    Lockstep env.header others (Repeats row other)
      (setSink env recurse site target property)
      (setSink (env.over others) again another target property) :=
  Lockstep.bind (planSink_lockstep rearranged tally recursing byName) fun _ _ repeats =>
    Lockstep.pure (setSteps_repeats target property.name repeats)

omit rearranged recursing tally in
theorem setEach_lockstep {assign assignAgain : Property → Planning (List Step)}
    {properties : List Property}
    (each : ∀ property ∈ properties,
      Lockstep env.header others (Repeats row other) (assign property) (assignAgain property)) :
    Lockstep env.header others (Repeats row other) (setEach assign properties)
      (setEach assignAgain properties) := by
  induction properties with
  | nil => exact Lockstep.pure Repeats.nil
  | cons property rest ih =>
      refine Lockstep.bind (each property (by simp)) fun _ _ first => ?_
      exact Lockstep.bind (ih fun other member => each other (by simp [member]))
        fun _ _ later => Lockstep.pure (first.append later)

theorem setProperties_lockstep (target : Register)
    (byName : (Target.object type).AllByName env.bindings env.settings) :
    Lockstep env.header others (Repeats row other)
      (setProperties env recurse site type target)
      (setProperties (env.over others) again another type target) := by
  have own : ∀ {accepts : Property → Bool} {property : Property},
      property ∈ (type.properties.filter PropertyOf.isAssignable).filter accepts →
        property.target.AllByName env.bindings env.settings :=
    fun member => byName.part
      (Target.property_parts (List.mem_of_mem_filter (List.mem_of_mem_filter member)))
  refine Lockstep.bind (setEach_lockstep fun property member =>
    setProperty_lockstep rearranged tally recursing target (own member)) fun _ _ plain => ?_
  exact Lockstep.bind (setEach_lockstep fun property member =>
    setSink_lockstep rearranged tally recursing target (own member))
    fun _ _ sinks => Lockstep.pure (plain.append sinks)

/-! ## Instances -/

theorem planReused_lockstep
    (unmade : (env.settings.ofType? type.name).bind TypePolicy.factory = none)
    (byName : (Target.object type).AllByName env.bindings env.settings) :
    Lockstep env.header others (Program.Repeats row other)
      (planReused env recurse site type none)
      (planReused (env.over others) again another type none) := by
  refine Lockstep.bind (planInstance_lockstep rearranged tally recursing unmade byName)
    fun _ _ created => ?_
  refine Lockstep.bind (reuseOrCreate_lockstep tally created) fun start startAgain started => ?_
  unfold planAssigned
  rw [started.result]
  exact Lockstep.bind (setProperties_lockstep rearranged tally recursing start.result byName)
    fun _ _ assigned => Lockstep.pure ⟨rfl, started.steps.append assigned⟩

/-- The type that stands for an abstract one is among the parts of it. -/
theorem planSingle_lockstep {own : Option TypePolicy}
    (configured : env.settings.ofType? type.name = own)
    (byName : (Target.object type).AllByName env.bindings env.settings) :
    Lockstep env.header others (Program.Repeats row other)
      (planSingle env recurse site type own)
      (planSingle (env.over others) again another type own) := by
  have unmade {concrete : ObjectType}
      (concreteByName : (Target.object concrete).AllByName env.bindings env.settings) :
      (env.settings.ofType? concrete.name).bind TypePolicy.factory = none := by
    cases found : env.settings.ofType? concrete.name with
    | none => rfl
    | some policy => exact (concreteByName.here policy found).1
  have noFactory : own.bind TypePolicy.factory = none := by
    rw [← configured]
    exact unmade byName
  have planned {concrete : ObjectType}
      (concreteByName : (Target.object concrete).AllByName env.bindings env.settings) :=
    planReused_lockstep rearranged tally recursing (unmade concreteByName) concreteByName
  cases default : own.bind TypePolicy.default with
  | none =>
      simp only [planSingle, default, noFactory]
      exact planned byName
  | some concrete =>
      obtain ⟨policy, rfl, isDefault⟩ := Option.bind_eq_some_iff.mp default
      have standsIn : (Target.object concrete).AllByName env.bindings env.settings :=
        byName.part (Target.policy_parts configured (TypePolicy.default_targets isDefault))
      simp only [planSingle, default, noFactory]
      by_cases stands : (type.isAbstract && (none : Option Factory).isNone) = true
      · simp only [if_pos stands]
        exact planned standsIn
      · simp only [if_neg stands]
        exact planned byName

end Members

theorem planObject_lockstep (rearranged : Header.Rearranged row other env.header others)
    (recursing : GoesWith row other env others recurse again) :
    GoesWith row other env others (planObject env recurse) (planObject (env.over others) again) := by
  intro site another tally settled byName
  unfold planObject
  rw [tally.target]
  cases found : site.target with
  | object declared =>
      rw [found] at byName
      refine Lockstep.bindSame (isAbsent_lockstep rearranged tally) fun absent => ?_
      refine Lockstep.branch (Lockstep.pure .none) ?_
      have single := planSingle_lockstep rearranged tally recursing rfl byName
      rw [Environment.over_settings]
      cases configured : env.settings.ofType? declared.name with
      | none =>
          rw [configured] at single
          exact Lockstep.bind single fun _ _ repeats => Lockstep.pure (.some repeats)
      | some own =>
          rw [configured] at single
          simp only [(byName.here own configured).2, List.isEmpty_nil, if_true]
          exact Lockstep.bind single fun _ _ repeats => Lockstep.pure (.some repeats)
  | _ => exact Lockstep.pure .none

/-! ## The standard strategy -/

theorem inOrder_lockstep {site another : Site} {planners plannersAgain : List Planner}
    (each : List.Forall₂ (fun planner again =>
        Lockstep env.header others (Option.Rel (Program.Repeats row other)) (planner site)
          (again another)) planners plannersAgain) :
    Lockstep env.header others (Option.Rel (Program.Repeats row other)) (inOrder site planners)
      (inOrder another plannersAgain) := by
  induction each with
  | nil => exact Lockstep.pure .none
  | cons first _ ih =>
      refine Lockstep.bind (Lockstep.orRelease first) fun _ _ found => ?_
      cases found with
      | some repeats => exact Lockstep.pure (.some repeats)
      | none => exact ih

/-- Where columns are taken by name there is no container. -/
theorem containers_decline (env : Environment) (recurse : Planner) (site : Site)
    (settings : Settings) (byName : site.target.TakesByName settings) :
    planTuple env recurse site = pure none ∧ planArray env recurse site = pure none ∧
      planDictionary env recurse site = pure none ∧ planSequence env recurse site = pure none := by
  rw [planTuple, planArray, planDictionary, planSequence]
  cases found : site.target with
  | list | sequence | map | dictionary | array | tuple =>
      rw [found] at byName
      obtain ⟨leaf, isLeaf, -⟩ := byName
      cases isLeaf
  | scalar | nullable | enum | any | dynamic | object | reference => exact ⟨rfl, rfl, rfl, rfl⟩

/-- No planner but those of leaves and of object types has anything to do. -/
theorem standard_lockstep (rearranged : Header.Rearranged row other env.header others)
    (levels : Nat) :
    GoesWith row other env others (standard env levels) (standard (env.over others) levels) := by
  induction levels with
  | zero =>
      intro site another tally _ _
      rw [standard, standard]
      dsimp only
      rw [tally.target]
      exact Lockstep.throw _
  | succ levels ih =>
      intro site another tally settled byName
      have leaf := planLeaf_lockstep rearranged site another tally settled byName
      have object := planObject_lockstep rearranged ih site another tally settled byName
      have untyped (env : Environment) (site : Site) (target : site.target.isAny = false) :
          planUntypedMember env site = pure none := by
        rw [planUntypedMember, takesAllColumns, target]
        rfl
      have declines := containers_decline env (standard env levels) site _ byName.here
      have alsoDeclines := containers_decline (env.over others) (standard (env.over others) levels)
        another env.settings (by rw [tally.target]; exact byName.here)
      refine inOrder_lockstep (.cons ?_ (.cons leaf (.cons ?_ (.cons ?_ (.cons ?_ (.cons ?_
        (.cons object .nil)))))))
      · rw [untyped env site byName.untyped,
          untyped _ another (by rw [tally.target]; exact byName.untyped)]
        exact Lockstep.pure .none
      · rw [declines.1, alsoDeclines.1]
        exact Lockstep.pure .none
      · rw [declines.2.1, alsoDeclines.2.1]
        exact Lockstep.pure .none
      · rw [declines.2.2.1, alsoDeclines.2.2.1]
        exact Lockstep.pure .none
      · rw [declines.2.2.2, alsoDeclines.2.2.2]
        exact Lockstep.pure .none

end Planning

end Unflatten
