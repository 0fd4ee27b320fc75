import Unflatten.Proofs.Planning.Containers

/-!
# Planned instances

What the planners of object types and the standard strategy have done where they succeed. The
standard strategy has one planner for object types; all others decline them.
-/

set_option autoImplicit false

namespace Unflatten.Planning

variable {env : Environment} {recurse : Planner} {site : Site} {pass next : Pass}
variable {program : Program} {result : Option Program}

/-- The site of a sink: it sees the columns without a name only. -/
def sinkSite (env : Environment) (site : Site) (pass : Pass) (target : Target) : Site :=
  ⟨target.resolve env.bindings,
    .among (env.header.nameless pass.claims site.scope env.settings.sentinel), none, .member⟩

theorem planSink_cases {target : Target}
    (given : Gives (planSink env recurse site target) pass result next) :
    (env.header.nameless pass.claims site.scope env.settings.sentinel = [] ∧ result = none ∧
        next = pass) ∨
      (env.header.nameless pass.claims site.scope env.settings.sentinel ≠ [] ∧
        Gives (recurse (sinkSite env site pass target)) pass result next) := by
  unfold planSink at given
  rw [gives_bind] at given
  obtain ⟨found, between, same, given⟩ := given
  obtain ⟨rfl, rfl⟩ := gives_claims.mp same
  simp only [] at given
  split at given
  · rename_i isEmpty
    exact Or.inl ⟨List.isEmpty_iff.mp isEmpty, gives_pure.mp given⟩
  · rename_i isSome
    exact Or.inr ⟨fun isEmpty => isSome (List.isEmpty_iff.mpr isEmpty), given⟩

theorem planSink_gives {target : Target}
    (given : Gives (planSink env recurse site target) pass result next) :
    (result = none ∧ next = pass) ∨
      Gives (recurse (sinkSite env site pass target)) pass result next :=
  (planSink_cases given).imp And.right And.right

/-! ## Constructor arguments -/

theorem planNamedArgument_gives {parameter : Parameter}
    (given : Gives (planNamedArgument env recurse site parameter) pass result next) :
    (result = none ∧ next = pass) ∨
      (∃ leaf column program, result = some program ∧ parameter.target.leaf? = some leaf ∧
        env.header.find? pass.claims site.scope (foldName parameter.name) = some column ∧
        Gives (read env column leaf) pass program next) ∨
      (parameter.target.leaf? = none ∧
        Gives (recurse (site.member env parameter.name parameter.target none)) pass result
          next) := by
  unfold planNamedArgument at given
  rw [gives_bind] at given
  obtain ⟨column?, between, found, given⟩ := given
  obtain ⟨rfl, rfl⟩ := gives_find?.mp found
  split at given
  · rename_i leaf isLeaf
    split at given
    · rename_i column found
      obtain ⟨program, rfl, reads⟩ := gives_planned.mp given
      exact Or.inr (Or.inl ⟨leaf, column, program, rfl, isLeaf, found, reads⟩)
    · exact Or.inl (gives_pure.mp given)
  · rename_i notLeaf
    rw [gives_bind] at given
    obtain ⟨member, between, found, given⟩ := given
    obtain ⟨rfl, rfl⟩ := gives_hasMember.mp found
    split at given
    · exact Or.inr (Or.inr ⟨notLeaf, given⟩)
    · exact Or.inl (gives_pure.mp given)

theorem planArgument_gives {parameter : Parameter}
    (given : Gives (planArgument env recurse site parameter) pass program next) :
    Gives (planNamedArgument env recurse site parameter) pass (some program) next ∨
      ∃ middle, Gives (planNamedArgument env recurse site parameter) pass none middle ∧
        ((parameter.isSink = true ∧
            Gives (planSink env recurse site parameter.target) middle (some program) next) ∨
          ∃ between,
            (between = middle ∨
              Gives (planSink env recurse site parameter.target) middle none between) ∧
            Gives (constant parameter.target.defaultValue) between program next) := by
  unfold planArgument at given
  rw [gives_bind] at given
  obtain ⟨named, middle, planned, given⟩ := given
  cases named with
  | some found =>
      obtain ⟨rfl, rfl⟩ := gives_pure.mp given
      exact Or.inl planned
  | none =>
      refine Or.inr ⟨middle, planned, ?_⟩
      simp only [] at given
      split at given
      · rename_i isSink
        rw [gives_bind] at given
        obtain ⟨sunk, between, sink, given⟩ := given
        cases sunk with
        | some found =>
            obtain ⟨rfl, rfl⟩ := gives_pure.mp given
            exact Or.inl ⟨isSink, sink⟩
        | none => exact Or.inr ⟨between, Or.inr sink, given⟩
      · rw [gives_bind] at given
        obtain ⟨sunk, between, same, given⟩ := given
        obtain ⟨rfl, rfl⟩ := gives_pure.mp same
        exact Or.inr ⟨between, Or.inl rfl, given⟩

theorem planArguments_cons {parameter : Parameter} {rest : List Parameter}
    {arguments : List Program}
    (given : Gives (planArguments env recurse site (parameter :: rest)) pass arguments next) :
    ∃ first middle others, Gives (planArgument env recurse site parameter) pass first middle ∧
      Gives (planArguments env recurse site rest) middle others next ∧
      arguments = first :: others := by
  simp only [planArguments, gives_bind, gives_pure] at given
  obtain ⟨first, middle, planned, others, after, planRest, rfl, rfl⟩ := given
  exact ⟨first, middle, others, planned, planRest, rfl⟩

/-- The factory that makes instances of a type in place of a constructor. -/
def factoryFor (env : Environment) (type : ObjectType) (factory : Option Factory) :
    Option Factory :=
  factory.or ((env.settings.ofType? type.name).bind TypePolicy.factory)

theorem planInstance_gives {type : ObjectType} {factory : Option Factory}
    (given : Gives (planInstance env recurse site type factory) pass program next) :
    (∃ maker, factoryFor env type factory = some maker ∧ next = pass.advanced ∧
        program = Program.single (.produce maker pass.nextRegister) pass.nextRegister) ∨
      (factoryFor env type factory = none ∧ ∃ constructor arguments middle,
        type.chooseConstructor (env.settings.ofType? type.name)
            ⟨env.header, pass.claims, site.scope⟩ env.settings = .ok constructor ∧
        Gives (planArguments env recurse site constructor.parameters) pass arguments middle ∧
        next = middle.advanced ∧
        program =
          ⟨arguments.flatMap ProgramOf.steps
              ++ [.construct type constructor (arguments.map ProgramOf.result)
                middle.nextRegister],
            middle.nextRegister⟩) := by
  unfold planInstance at given
  simp only [] at given
  split at given
  · rename_i maker found
    simp only [gives_bind, gives_fresh, gives_pure] at given
    obtain ⟨into, between, ⟨rfl, rfl⟩, rfl, rfl⟩ := given
    exact Or.inl ⟨maker, found, rfl, rfl⟩
  · rename_i noMaker
    simp only [gives_bind, gives_fresh, gives_pure, gives_chooseConstructor] at given
    obtain ⟨constructor, between, ⟨chosen, rfl⟩, arguments, middle, planned, into, after,
      ⟨rfl, rfl⟩, rfl, rfl⟩ := given
    exact Or.inr ⟨noMaker, constructor, arguments, middle, chosen, planned, rfl, rfl⟩

/-! ## Properties -/

theorem setProperty_gives {target : Register} {property : Property} {steps : List Step}
    (given : Gives (setProperty env recurse site target property) pass steps next) :
    (∃ leaf, (property.target.leaf?.filter fun leaf => !leaf.isAny) = some leaf ∧
        ((steps = [] ∧ next = pass) ∨
          ∃ column value, Gives (read env column leaf) pass value next ∧
            env.header.find? pass.claims site.scope (foldName property.name) = some column ∧
            steps = value.steps ++ [.assign target property.name value.result])) ∨
      ((property.target.leaf?.filter fun leaf => !leaf.isAny) = none ∧
        ∃ found,
          Gives
            (recurse
              (site.member env property.name property.target (some pass.nextRegister)))
            pass.advanced found next ∧
          steps =
            match found with
            | some value =>
              .project target property.name pass.nextRegister ::
                (value.steps ++ [.assign target property.name value.result])
            | none => []) := by
  unfold setProperty at given
  split at given
  · rename_i leaf isLeaf
    refine Or.inl ⟨leaf, isLeaf, ?_⟩
    rw [gives_bind] at given
    obtain ⟨column?, between, same, given⟩ := given
    obtain ⟨rfl, rfl⟩ := gives_find?.mp same
    split at given
    · rename_i column found
      rw [gives_bind] at given
      obtain ⟨value, after, reads, given⟩ := given
      obtain ⟨rfl, rfl⟩ := gives_pure.mp given
      exact Or.inr ⟨column, value, reads, found, rfl⟩
    · exact Or.inl (gives_pure.mp given)
  · rename_i notLeaf
    refine Or.inr ⟨notLeaf, ?_⟩
    rw [gives_bind] at given
    obtain ⟨existing, between, same, given⟩ := given
    obtain ⟨rfl, rfl⟩ := gives_fresh.mp same
    rw [gives_bind] at given
    obtain ⟨found, after, planned, given⟩ := given
    cases found with
    | some value =>
        obtain ⟨rfl, rfl⟩ := gives_pure.mp given
        exact ⟨some value, planned, rfl⟩
    | none =>
        obtain ⟨rfl, rfl⟩ := gives_pure.mp given
        exact ⟨none, planned, rfl⟩

theorem setSink_gives {target : Register} {property : Property} {steps : List Step}
    (given : Gives (setSink env recurse site target property) pass steps next) :
    ∃ found, Gives (planSink env recurse site property.target) pass found next ∧
      steps = setSteps target property.name found := by
  unfold setSink at given
  rw [gives_bind] at given
  obtain ⟨found, between, planned, given⟩ := given
  obtain ⟨rfl, rfl⟩ := gives_pure.mp given
  exact ⟨found, planned, rfl⟩

theorem setEach_congr {assign other : Property → Planning (List Step)}
    {properties : List Property}
    (same : ∀ property ∈ properties, assign property = other property) :
    setEach assign properties = setEach other properties := by
  induction properties with
  | nil => rfl
  | cons property rest ih =>
      rw [setEach, setEach, same property (by simp), ih fun other member => same other (by
        simp [member])]

theorem setEach_cons {assign : Property → Planning (List Step)} {property : Property}
    {rest : List Property} {steps : List Step}
    (given : Gives (setEach assign (property :: rest)) pass steps next) :
    ∃ first middle others, Gives (assign property) pass first middle ∧
      Gives (setEach assign rest) middle others next ∧ steps = first ++ others := by
  simp only [setEach, gives_bind, gives_pure] at given
  obtain ⟨first, middle, planned, others, after, planRest, rfl, rfl⟩ := given
  exact ⟨first, middle, others, planned, planRest, rfl⟩

theorem setEach_next {assign : Property → Planning (List Step)} {property : Property}
    {rest : List Property} {first others : List Step} {middle : Pass}
    (planned : Gives (assign property) pass first middle)
    (later : Gives (setEach assign rest) middle others next) :
    Gives (setEach assign (property :: rest)) pass (first ++ others) next := by
  rw [setEach]
  exact gives_bind.mpr
    ⟨first, middle, planned, gives_bind.mpr ⟨others, next, later, gives_pure.mpr ⟨rfl, rfl⟩⟩⟩

def plainProperties (type : ObjectType) : List Property :=
  (type.properties.filter PropertyOf.isAssignable).filter fun property => !property.isSink

def sinkProperties (type : ObjectType) : List Property :=
  (type.properties.filter PropertyOf.isAssignable).filter PropertyOf.isSink

theorem setProperties_gives {type : ObjectType} {target : Register} {steps : List Step}
    (given : Gives (setProperties env recurse site type target) pass steps next) :
    ∃ plain middle sinks,
      Gives (setEach (setProperty env recurse site target) (plainProperties type)) pass plain
        middle ∧
      Gives (setEach (setSink env recurse site target) (sinkProperties type)) middle sinks next ∧
      steps = plain ++ sinks := by
  simp only [setProperties, gives_bind, gives_pure] at given
  obtain ⟨plain, middle, planPlain, sinks, after, planSinks, rfl, rfl⟩ := given
  exact ⟨plain, middle, sinks, planPlain, planSinks, rfl⟩

/-! ## Instances -/

theorem planAssigned_gives {type : ObjectType} {start : Program}
    (given : Gives (planAssigned env recurse site type start) pass program next) :
    ∃ assigns, Gives (setProperties env recurse site type start.result) pass assigns next ∧
      program = ⟨start.steps ++ assigns, start.result⟩ := by
  simp only [planAssigned, gives_bind, gives_pure] at given
  obtain ⟨assigns, middle, planned, rfl, rfl⟩ := given
  exact ⟨assigns, planned, rfl⟩

theorem planConcrete_gives {type : ObjectType} {factory : Option Factory}
    (given : Gives (planConcrete env recurse site type factory) pass program next) :
    ∃ start middle, Gives (planInstance env recurse site type factory) pass start middle ∧
      Gives (planAssigned env recurse site type start) middle program next := by
  simp only [planConcrete, gives_bind] at given
  exact given

/-- The type that is instantiated where there are no subtype rules. -/
def concreteOf (declared : ObjectType) (own : Option TypePolicy) : ObjectType :=
  match own.bind TypePolicy.default with
  | some default =>
    if declared.isAbstract && (own.bind TypePolicy.factory).isNone then default else declared
  | none => declared

theorem planSingle_gives {declared : ObjectType} {own : Option TypePolicy}
    (given : Gives (planSingle env recurse site declared own) pass program next) :
    ∃ create middle start between,
      Gives (planInstance env recurse site (concreteOf declared own)
        (own.bind TypePolicy.factory)) pass create middle ∧
      Gives (reuseOrCreate site .object create) middle start between ∧
      Gives (planAssigned env recurse site (concreteOf declared own) start) between program
        next := by
  simp only [planSingle, gives_bind] at given
  obtain ⟨create, middle, created, start, between, started, assigned⟩ := given
  exact ⟨create, middle, start, between, created, started, assigned⟩

/-! ## Subtypes -/

theorem planBranches_cons {start : Claims} {rule : SubtypeCase} {rest : List SubtypeCase}
    {branches : List (Branch × Claims)}
    (given : Gives (planBranches env recurse site start (rule :: rest)) pass branches next) :
    ∃ program middle others,
      Gives
        (planConcrete env recurse site rule.target.objectType rule.target.factory?)
        { pass with claims := start } program middle ∧
      Gives (planBranches env recurse site start rest) middle others next ∧
      branches =
        (⟨rule.accepts, rule.target.objectType.name, program⟩, middle.claims) :: others := by
  simp only [planBranches, gives_bind, gives_setClaims, gives_claims, gives_pure] at given
  obtain ⟨_, _, rfl, program, middle, planned, _, _, ⟨rfl, rfl⟩, others, _, planRest, rfl,
    rfl⟩ := given
  exact ⟨program, _, others, planned, planRest, rfl⟩

theorem planFallback_gives {declared : ObjectType} {own : TypePolicy}
    (given : Gives (planFallback env recurse site declared own) pass program next) :
    (∃ default, own.default = some default ∧
        Gives (planConcrete env recurse site default none) pass program next) ∨
      (own.default = none ∧ declared.isAbstract = true ∧ next = pass.advanced ∧
        program = Program.single (.fail (.noSubtype declared.name)) pass.nextRegister) ∨
      (own.default = none ∧ declared.isAbstract = false ∧
        Gives (planConcrete env recurse site declared none) pass program next) := by
  unfold planFallback at given
  split at given
  · rename_i default found
    exact Or.inl ⟨default, found, given⟩
  · rename_i noDefault
    split at given
    · rename_i isAbstract
      simp only [gives_bind, gives_fresh, gives_pure] at given
      obtain ⟨into, between, ⟨rfl, rfl⟩, rfl, rfl⟩ := given
      exact Or.inr (Or.inl ⟨noDefault, isAbstract, rfl, rfl⟩)
    · rename_i isConcrete
      exact Or.inr (Or.inr ⟨noDefault, by simpa using isConcrete, given⟩)

/-- The step that picks a branch, in the register that is free after the fallback. -/
def selection (branches : List (Branch × Claims)) (fallback : Program) (into : Register) :
    Program :=
  Program.single (.select (branches.map Prod.fst) fallback into) into

theorem planPolymorphic_gives {declared : ObjectType} {own : TypePolicy}
    (given : Gives (planPolymorphic env recurse site declared own) pass program next) :
    ∃ branches middle fallback between,
      Gives (planBranches env recurse site pass.claims own.subtypes) pass branches middle ∧
      Gives (planFallback env recurse site declared own) { middle with claims := pass.claims }
        fallback between ∧
      ((site.existing = none ∧
          program = selection branches fallback between.nextRegister ∧
          next =
            { between.advanced with
              claims := (branches.map Prod.snd ++ [between.claims]).foldl Claims.merge
                pass.claims }) ∨
        ∃ existing update after, site.existing = some existing ∧
          Gives (planAssigned env recurse site declared (Program.keep existing))
            { between.advanced with claims := pass.claims } update after ∧
          program =
            Program.single
              (.reuse existing .object update
                (selection branches fallback between.nextRegister) after.nextRegister)
              after.nextRegister ∧
          next =
            { after.advanced with
              claims := (branches.map Prod.snd ++ [between.claims] ++ [after.claims]).foldl
                Claims.merge pass.claims }) := by
  unfold planPolymorphic at given
  rw [gives_bind] at given
  obtain ⟨start, between, same, given⟩ := given
  obtain ⟨rfl, rfl⟩ := gives_claims.mp same
  simp only [gives_bind, gives_setClaims, gives_fresh, gives_claims] at given
  obtain ⟨branches, middle, planned, _, _, rfl, fallback, between, fell, _, _, ⟨rfl, rfl⟩, _, _,
    ⟨rfl, rfl⟩, given⟩ := given
  refine ⟨branches, middle, fallback, _, planned, fell, ?_⟩
  split at given
  · rename_i isNew
    simp only [gives_bind, gives_setClaims, gives_pure] at given
    obtain ⟨_, _, rfl, rfl, rfl⟩ := given
    exact Or.inl ⟨isNew, rfl, rfl⟩
  · rename_i existing isThere
    simp only [gives_bind, gives_setClaims, gives_fresh, gives_claims, gives_pure] at given
    obtain ⟨_, _, rfl, update, after, updated, _, _, ⟨rfl, rfl⟩, _, _, ⟨rfl, rfl⟩, _, _, rfl, rfl,
      rfl⟩ := given
    exact Or.inr ⟨existing, update, _, isThere, updated, rfl, rfl⟩

theorem planObject_gives (given : Gives (planObject env recurse site) pass result next) :
    (result = none ∧ next = pass) ∨ ∃ program declared, result = some program ∧
      site.target = .object declared ∧
      (((∀ own, env.settings.ofType? declared.name = some own → own.subtypes = []) ∧
          Gives (planSingle env recurse site declared (env.settings.ofType? declared.name)) pass
            program next) ∨
        ∃ own, env.settings.ofType? declared.name = some own ∧ own.subtypes ≠ [] ∧
          Gives (planPolymorphic env recurse site declared own) pass program next) := by
  unfold planObject at given
  split at given
  · rename_i declared isObject
    rw [gives_bind] at given
    obtain ⟨absent, between, found, given⟩ := given
    obtain ⟨-, rfl⟩ := gives_isAbsent.mp found
    split at given
    · exact Or.inl (gives_pure.mp given)
    · split at given
      · rename_i own found
        split at given
        · rename_i alone
          obtain ⟨program, rfl, planned⟩ := gives_planned.mp given
          refine Or.inr ⟨program, declared, rfl, isObject, Or.inl ⟨?_, by rw [found]; exact planned⟩⟩
          intro other same
          cases found.symm.trans same
          simpa using alone
        · rename_i ruled
          obtain ⟨program, rfl, planned⟩ := gives_planned.mp given
          exact Or.inr ⟨program, declared, rfl, isObject,
            Or.inr ⟨own, found, by simpa using ruled, planned⟩⟩
      · rename_i missing
        obtain ⟨program, rfl, planned⟩ := gives_planned.mp given
        refine Or.inr ⟨program, declared, rfl, isObject,
          Or.inl ⟨?_, by rw [missing]; exact planned⟩⟩
        intro other same
        cases missing.symm.trans same
  · exact Or.inl (gives_pure.mp given)

/-! ## The standard strategy -/

/-- A planner that declines leaves the pass as it was. -/
def DeclinesCleanly (planner : Planner) : Prop :=
  ∀ {site : Site} {pass next : Pass}, Gives (planner site) pass none next → next = pass

theorem planUntypedMember_declines : DeclinesCleanly (planUntypedMember env) := by
  intro site pass next given
  rcases planUntypedMember_gives given with ⟨-, same⟩ | ⟨-, given⟩
  · exact same
  · rcases planUntyped_gives given with ⟨-, same⟩ | ⟨_, _, impossible, -⟩
    · exact same
    · cases impossible

theorem planLeaf_declines : DeclinesCleanly (planLeaf env) := by
  intro site pass next given
  rcases planLeaf_gives given with ⟨-, same⟩ | ⟨_, _, impossible, -⟩
  · exact same
  · cases impossible

theorem planTuple_declines : DeclinesCleanly (planTuple env recurse) := by
  intro site pass next given
  rcases planTuple_gives given with ⟨-, same⟩ | ⟨_, _, _, _, impossible, -⟩
  · exact same
  · cases impossible

theorem planArray_declines : DeclinesCleanly (planArray env recurse) := by
  intro site pass next given
  rcases planArray_gives given with ⟨-, same⟩ | ⟨_, _, _, _, impossible, -⟩
  · exact same
  · cases impossible

theorem planEntries_declines {type : Option DictionaryType} {value : Target}
    (given : Gives (planEntries env recurse site type value) pass none next) : next = pass := by
  rcases planEntries_gives given with ⟨-, same⟩ | ⟨_, _, _, _, _, impossible⟩
  · exact same
  · cases impossible

theorem planDictionary_declines : DeclinesCleanly (planDictionary env recurse) := by
  intro site pass next given
  rcases planDictionary_gives given with ⟨-, same⟩ | ⟨_, -, given⟩ | ⟨_, -, given⟩
  · exact same
  · exact planEntries_declines given
  · exact planEntries_declines given

theorem planItems_declines {type : Option SequenceType} {element : Target}
    (given : Gives (planItems env recurse site type element) pass none next) : next = pass := by
  rcases planItems_gives given with ⟨-, same⟩ | ⟨_, _, _, _, _, impossible⟩
  · exact same
  · cases impossible

theorem planSequence_declines : DeclinesCleanly (planSequence env recurse) := by
  intro site pass next given
  rcases planSequence_gives given with ⟨-, same⟩ | ⟨_, -, given⟩ | ⟨_, -, given⟩
  · exact same
  · exact planItems_declines given
  · exact planItems_declines given

theorem planObject_declines : DeclinesCleanly (planObject env recurse) := by
  intro site pass next given
  rcases planObject_gives given with ⟨-, same⟩ | ⟨_, _, impossible, -⟩
  · exact same
  · cases impossible

theorem standardPlanners_decline (planner : Planner)
    (member : planner ∈ standardPlanners env recurse) : DeclinesCleanly planner := by
  simp only [standardPlanners, List.mem_cons, List.not_mem_nil, or_false] at member
  rcases member with rfl | rfl | rfl | rfl | rfl | rfl | rfl
  · exact planUntypedMember_declines
  · exact planLeaf_declines
  · exact planTuple_declines
  · exact planArray_declines
  · exact planDictionary_declines
  · exact planSequence_declines
  · exact planObject_declines

theorem orRelease_gives {action : Planning (Option Program)}
    (given : Gives (orRelease action) pass result next) :
    (result = none ∧ ∃ middle, Gives action pass none middle ∧
        next = { middle with claims := pass.claims }) ∨
      ∃ program, result = some program ∧ Gives action pass (some program) next := by
  unfold orRelease at given
  rw [gives_bind] at given
  obtain ⟨before, between, same, given⟩ := given
  obtain ⟨rfl, rfl⟩ := gives_claims.mp same
  rw [gives_bind] at given
  obtain ⟨found, middle, planned, given⟩ := given
  cases found with
  | some program =>
      obtain ⟨rfl, rfl⟩ := gives_pure.mp given
      exact Or.inr ⟨program, rfl, planned⟩
  | none =>
      simp only [gives_bind, gives_setClaims, gives_pure] at given
      obtain ⟨_, _, rfl, rfl, rfl⟩ := given
      exact Or.inl ⟨rfl, middle, planned, rfl⟩

theorem inOrder_gives {planners : List Planner}
    (clean : ∀ planner ∈ planners, DeclinesCleanly planner)
    (given : Gives (inOrder site planners) pass result next) :
    (result = none ∧ next = pass) ∨ ∃ planner ∈ planners, ∃ program, result = some program ∧
      Gives (planner site) pass (some program) next := by
  induction planners with
  | nil => exact Or.inl (gives_pure.mp given)
  | cons planner rest ih =>
      rw [inOrder, gives_bind] at given
      obtain ⟨found, middle, released, given⟩ := given
      rcases orRelease_gives released with ⟨rfl, after, declined, rfl⟩ | ⟨program, rfl, planned⟩
      · obtain rfl := clean planner (by simp) declined
        have cleanRest : ∀ other ∈ rest, DeclinesCleanly other := by
          intro other member
          exact clean other (by simp [member])
        rcases ih cleanRest given with same | ⟨other, member, program, rfl, planned⟩
        · exact Or.inl same
        · exact Or.inr ⟨other, by simp [member], program, rfl, planned⟩
      · obtain ⟨rfl, rfl⟩ := gives_pure.mp given
        exact Or.inr ⟨planner, by simp, program, rfl, planned⟩

theorem standard_gives {levels : Nat}
    (given : Gives (standard env levels site) pass result next) :
    (result = none ∧ next = pass) ∨ ∃ below, levels = below + 1 ∧
      ∃ planner ∈ standardPlanners env (standard env below), ∃ program, result = some program ∧
        Gives (planner site) pass (some program) next := by
  cases levels with
  | zero => exact absurd given gives_throw
  | succ below =>
      rcases inOrder_gives standardPlanners_decline given with same | planned
      · exact Or.inl same
      · exact Or.inr ⟨below, rfl, planned⟩

theorem standard_declines {levels : Nat} : DeclinesCleanly (standard env levels) := by
  intro site pass next given
  rcases standard_gives given with ⟨-, same⟩ | ⟨_, _, _, _, _, impossible, -⟩
  · exact same
  · cases impossible

/-! ## Sites of object types -/

variable {planner : Planner} {planners : List Planner} {type : ObjectType} {levels : Nat}

theorem inOrder_skip (declines : planner site = pure none) :
    inOrder site (planner :: planners) = inOrder site planners := by
  funext pass
  rw [inOrder, orRelease, declines]
  rfl

/-- The standard strategy leaves object types to the planner of object types. -/
theorem standard_object (isObject : site.target = .object type) (levels : Nat) :
    standard env (levels + 1) site = inOrder site [planObject env (standard env levels)] := by
  have untyped : planUntypedMember env site = pure none := by
    rw [planUntypedMember, takesAllColumns, isObject]
    rfl
  have leaf : planLeaf env site = pure none := by
    rw [planLeaf, isObject]
    rfl
  have tuple : planTuple env (standard env levels) site = pure none := by
    rw [planTuple, isObject]
  have array : planArray env (standard env levels) site = pure none := by
    rw [planArray, isObject]
  have dictionary : planDictionary env (standard env levels) site = pure none := by
    rw [planDictionary, isObject]
  have sequence : planSequence env (standard env levels) site = pure none := by
    rw [planSequence, isObject]
  calc
    standard env (levels + 1) site = inOrder site (standardPlanners env (standard env levels)) :=
      rfl
    _ = inOrder site [planObject env (standard env levels)] := by
      rw [standardPlanners, inOrder_skip untyped, inOrder_skip leaf, inOrder_skip tuple,
        inOrder_skip array, inOrder_skip dictionary, inOrder_skip sequence]

theorem inOrder_only (clean : ∀ other ∈ planners, DeclinesCleanly other)
    (only : ∀ other ∈ planners, other = planner ∨ other site = pure none)
    (given : Gives (inOrder site planners) pass (some program) next) :
    Gives (planner site) pass (some program) next := by
  rcases inOrder_gives clean given with ⟨impossible, -⟩ | ⟨other, member, _, same, planned⟩
  · cases impossible
  · cases same
    rcases only other member with rfl | declines
    · exact planned
    · rw [declines] at planned
      cases (gives_pure.mp planned).1

theorem standard_planArray {element : Target} (isArray : site.target = .array element)
    (given : Gives (standard env levels site) pass (some program) next) :
    ∃ below, levels = below + 1 ∧
      Gives (planArray env (standard env below) site) pass (some program) next := by
  cases levels with
  | zero => exact absurd given gives_throw
  | succ below =>
      refine ⟨below, rfl, inOrder_only standardPlanners_decline (fun other member => ?_) given⟩
      simp only [standardPlanners, List.mem_cons, List.not_mem_nil, or_false] at member
      rcases member with rfl | rfl | rfl | rfl | rfl | rfl | rfl
      · refine Or.inr ?_
        rw [planUntypedMember, takesAllColumns, isArray]
        rfl
      · refine Or.inr ?_
        rw [planLeaf, isArray]
        rfl
      · refine Or.inr ?_
        rw [planTuple, isArray]
      · exact Or.inl rfl
      · refine Or.inr ?_
        rw [planDictionary, isArray]
      · refine Or.inr ?_
        rw [planSequence, isArray]
      · refine Or.inr ?_
        rw [planObject, isArray]

theorem standard_planObject (isObject : site.target = .object type)
    (given : Gives (standard env levels site) pass (some program) next) :
    ∃ below, levels = below + 1 ∧
      Gives (planObject env (standard env below) site) pass (some program) next := by
  cases levels with
  | zero => exact absurd given gives_throw
  | succ below =>
      rw [standard_object isObject] at given
      have clean : ∀ planner ∈ [planObject env (standard env below)], DeclinesCleanly planner := by
        intro planner member
        rw [List.mem_singleton.mp member]
        exact planObject_declines
      rcases inOrder_gives clean given with ⟨impossible, -⟩ | ⟨planner, member, _, same, planned⟩
      · cases impossible
      · cases same
        rw [List.mem_singleton.mp member] at planned
        exact ⟨below, rfl, planned⟩

end Unflatten.Planning
