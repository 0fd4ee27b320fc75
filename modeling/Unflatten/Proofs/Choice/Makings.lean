import Unflatten.Mapper
import Unflatten.Proofs.Choice.Optimum
import Unflatten.Proofs.Planning.Instances
import Unflatten.Proofs.Planning.Linearity

/-!
# What programs make

The makings of a program are the instances that it constructs, on whichever path: each an object
type with a constructor. A type is reached directly, as the default of an abstract type, by a
subtype rule, as what is left where no rule accepts, or as a member or an element, but always
through the same choice of a constructor. An abstract type passes this choice only with a preferred
constructor, and a site that would have to make one otherwise is not planned.
-/

set_option autoImplicit false

namespace Unflatten

structure Making where
  type : ObjectType
  constructor : Constructor

mutual

@[simp]
def Step.makings : Step → List Making
  | .construct type constructor _ _ => [⟨type, constructor⟩]
  | .reuse _ _ update create _ => programMakings update ++ programMakings create
  | .select branches fallback _ => branchMakings branches ++ programMakings fallback
  | .read .. | .constant .. | .produce .. | .project .. | .assign .. | .startSequence .. => []
  | .addItem .. | .startMap .. | .addEntry .. | .pack .. | .fail .. => []

@[simp]
def stepsMakings : List Step → List Making
  | [] => []
  | step :: rest => Step.makings step ++ stepsMakings rest

@[simp]
def programMakings : ProgramOf Step → List Making
  | ⟨steps, _⟩ => stepsMakings steps

@[simp]
def branchMakings : List (BranchOf Step) → List Making
  | [] => []
  | ⟨_, _, program⟩ :: rest => programMakings program ++ branchMakings rest

end

@[simp]
theorem programMakings_steps (program : Program) :
    programMakings program = stepsMakings program.steps := by
  cases program
  rfl

namespace Environment

/-- The constructor is the one to choose for the type, given what some site sees. -/
def Makes (env : Environment) (making : Making) : Prop :=
  ∃ view : View, view.header = env.header ∧
    making.type.Chooses (env.settings.ofType? making.type.name) view env.settings
      making.constructor

def MakesAll (env : Environment) (steps : List Step) : Prop :=
  ∀ making ∈ stepsMakings steps, env.Makes making

variable {env : Environment} {step : Step} {steps others : List Step}

@[simp]
theorem makesAll_nil : env.MakesAll [] := by
  simp [MakesAll]

@[simp]
theorem makesAll_cons : env.MakesAll (step :: steps) ↔
    (∀ making ∈ step.makings, env.Makes making) ∧ env.MakesAll steps := by
  simp only [MakesAll, stepsMakings, List.forall_mem_append]

@[simp]
theorem makesAll_append : env.MakesAll (steps ++ others) ↔
    env.MakesAll steps ∧ env.MakesAll others := by
  induction steps with
  | nil => simp
  | cons step rest ih => rw [List.cons_append, makesAll_cons, makesAll_cons, ih, and_assoc]

theorem makesAll_flatMap {α : Type} {items : List α} {steps : α → List Step} :
    env.MakesAll (items.flatMap steps) ↔ ∀ item ∈ items, env.MakesAll (steps item) := by
  induction items with
  | nil => simp
  | cons item rest ih =>
      rw [List.flatMap_cons, makesAll_append, ih, List.forall_mem_cons]

theorem makesAll_reuse {existing into : Register} {expectation : Expectation}
    {update create : Program} :
    env.MakesAll [.reuse existing expectation update create into] ↔
      env.MakesAll update.steps ∧ env.MakesAll create.steps := by
  simp only [MakesAll, stepsMakings, Step.makings, programMakings_steps, List.append_nil,
    List.forall_mem_append]

theorem makesAll_branches {branches : List Branch} :
    (∀ making ∈ branchMakings branches, env.Makes making) ↔
      ∀ branch ∈ branches, env.MakesAll branch.program.steps := by
  induction branches with
  | nil => simp
  | cons branch rest ih =>
      rw [List.forall_mem_cons, ← ih]
      simp only [MakesAll, branchMakings, programMakings_steps, List.forall_mem_append]

theorem makesAll_select {branches : List Branch} {fallback : Program} {into : Register} :
    env.MakesAll [.select branches fallback into] ↔
      (∀ branch ∈ branches, env.MakesAll branch.program.steps) ∧
        env.MakesAll fallback.steps := by
  rw [← makesAll_branches]
  simp only [MakesAll, stepsMakings, Step.makings, programMakings_steps, List.append_nil,
    List.forall_mem_append]

end Environment

namespace Planning

variable {env : Environment} {recurse : Planner} {site : Site} {pass next : Pass}
variable {program : Program} {result : Option Program}

/-! ## Leaves and containers -/

theorem read_makings {column : HeaderColumn} {leaf : Leaf}
    (given : Gives (read env column leaf) pass program next) : env.MakesAll program.steps := by
  obtain ⟨rfl, -⟩ := gives_read.mp given
  simp [Program.single]

theorem constant_makings {value : Value} (given : Gives (constant value) pass program next) :
    env.MakesAll program.steps := by
  obtain ⟨rfl, -⟩ := gives_constant.mp given
  simp [Program.single]

theorem pack_makings {form : SequenceForm} {items : List Program}
    (each : ∀ item ∈ items, env.MakesAll item.steps)
    (given : Gives (pack form items) pass program next) : env.MakesAll program.steps := by
  obtain ⟨rfl, -⟩ := gives_pack.mp given
  simpa [Environment.makesAll_flatMap] using each

theorem readAll_makings {leaf : Leaf} {columns : List HeaderColumn} {items : List Program}
    (given : Gives (readAll env leaf columns) pass items next) :
    ∀ item ∈ items, env.MakesAll item.steps := by
  induction columns generalizing pass items with
  | nil =>
      obtain ⟨rfl, -⟩ := gives_pure.mp given
      simp
  | cons column rest ih =>
      obtain ⟨first, middle, others, reads, readRest, rfl⟩ := readAll_cons given
      exact List.forall_mem_cons.mpr ⟨read_makings reads, ih readRest⟩

theorem readGroup_makings {leaf : Leaf} {group : Namesakes}
    (given : Gives (readGroup env leaf group) pass program next) :
    env.MakesAll program.steps := by
  obtain ⟨items, middle, reads, ⟨rfl, -⟩ | packs⟩ := readGroup_gives given
  · exact readAll_makings reads program (List.mem_singleton_self program)
  · exact pack_makings (readAll_makings reads) packs

theorem insertGroups_makings {leaf : Leaf} {type : Option DictionaryType} {target : Register}
    {groups : List Namesakes} {steps : List Step}
    (given : Gives (insertGroups env leaf type target groups) pass steps next) :
    env.MakesAll steps := by
  induction groups generalizing pass steps with
  | nil =>
      obtain ⟨rfl, -⟩ := gives_pure.mp given
      simp
  | cons group rest ih =>
      obtain ⟨item, middle, others, reads, inserts, rfl⟩ := insertGroups_cons given
      simp [readGroup_makings reads, ih inserts]

theorem planUntyped_makings (given : Gives (planUntyped env site) pass (some program) next) :
    env.MakesAll program.steps := by
  obtain ⟨impossible, -⟩ | ⟨_, leaf, same, -, -, planned⟩ := planUntyped_gives given
  · cases impossible
  obtain rfl := Option.some.inj same
  rcases planned with ⟨-, inserts, inserted, rfl⟩ | isNull | ⟨column, -, reads⟩ |
    ⟨items, middle, reads, packs⟩
  · simp [insertGroups_makings inserted]
  · exact constant_makings isNull
  · exact read_makings reads
  · exact pack_makings (readAll_makings reads) packs

theorem planLeaf_makings (given : Gives (planLeaf env site) pass (some program) next) :
    env.MakesAll program.steps := by
  obtain ⟨impossible, -⟩ | ⟨_, leaf, same, -, planned⟩ := planLeaf_gives given
  · cases impossible
  obtain rfl := Option.some.inj same
  rcases planned with ⟨column, -, reads⟩ | ⟨-, isDefault⟩
  · exact read_makings reads
  · exact constant_makings isDefault

theorem reuseOrCreate_makings {expectation : Expectation} {create : Program}
    (creates : env.MakesAll create.steps)
    (given : Gives (reuseOrCreate site expectation create) pass program next) :
    env.MakesAll program.steps := by
  obtain ⟨-, rfl, -⟩ | ⟨existing, -, -, rfl⟩ := reuseOrCreate_gives given
  · exact creates
  · exact Environment.makesAll_reuse.mpr ⟨Environment.makesAll_nil, creates⟩

section Recursion

/-! ## Containers of what is planned below -/

/-- What the planners are given to plan the sites below with. -/
abbrev Confined (env : Environment) (recurse : Planner) : Prop :=
  ∀ {site : Site} {pass next : Pass} {program : Program},
    Gives (recurse site) pass (some program) next → env.MakesAll program.steps

variable (confined : Confined env recurse)
include confined

theorem planSlots_makings {slots : List Target} {items : List Program}
    (given : Gives (planSlots env recurse site slots) pass items next) :
    ∀ item ∈ items, env.MakesAll item.steps := by
  induction slots generalizing pass items with
  | nil =>
      obtain ⟨rfl, -⟩ := gives_pure.mp given
      simp
  | cons target rest ih =>
      obtain ⟨first, middle, others, planned | ⟨between, -, isDefault⟩, later, rfl⟩ :=
        planSlots_cons given
      · exact List.forall_mem_cons.mpr ⟨confined planned, ih later⟩
      · exact List.forall_mem_cons.mpr ⟨constant_makings isDefault, ih later⟩

theorem planTuple_makings (given : Gives (planTuple env recurse site) pass (some program) next) :
    env.MakesAll program.steps := by
  obtain ⟨impossible, -⟩ | ⟨_, slots, items, middle, same, -, planned, packs⟩ :=
    planTuple_gives given
  · cases impossible
  · obtain rfl := Option.some.inj same
    exact pack_makings (planSlots_makings confined planned) packs

theorem repeatElement_makings {element : Target} {limit : Nat} {items : List Program}
    (given : Gives (repeatElement env recurse site element limit) pass items next) :
    ∀ item ∈ items, env.MakesAll item.steps := by
  induction limit generalizing pass items with
  | zero =>
      obtain ⟨rfl, -⟩ := gives_pure.mp given
      simp
  | succ limit ih =>
      obtain ⟨rfl, -⟩ | ⟨item, middle, planned, -, ⟨others, later, rfl⟩ | ⟨failure, -, rfl⟩⟩ :=
        repeatElement_succ given
      · simp
      · exact List.forall_mem_cons.mpr ⟨confined planned, ih later⟩
      · exact List.forall_mem_singleton.mpr (confined planned)

theorem planElements_makings {element : Target} {items : List Program}
    (given : Gives (planElements env recurse site element) pass items next) :
    ∀ item ∈ items, env.MakesAll item.steps := by
  obtain ⟨leaf, -, reads⟩ | ⟨-, repeated⟩ := planElements_gives given
  · exact readAll_makings reads
  · exact repeatElement_makings confined repeated

theorem planItems_makings {type : Option SequenceType} {element : Target}
    (given : Gives (planItems env recurse site type element) pass (some program) next) :
    env.MakesAll program.steps := by
  obtain ⟨impossible, -⟩ | ⟨start, middle, items, starts, elements, same⟩ := planItems_gives given
  · cases impossible
  obtain rfl := Option.some.inj same
  have started : env.MakesAll start.steps :=
    reuseOrCreate_makings (by simp [Program.single]) starts
  have each := planElements_makings confined elements
  refine Environment.makesAll_append.mpr ⟨started, Environment.makesAll_flatMap.mpr ?_⟩
  intro item member
  simp [each item member]

theorem planSequence_makings
    (given : Gives (planSequence env recurse site) pass (some program) next) :
    env.MakesAll program.steps := by
  obtain ⟨impossible, -⟩ | ⟨element, -, planned⟩ | ⟨type, -, planned⟩ := planSequence_gives given
  · cases impossible
  · exact planItems_makings confined planned
  · exact planItems_makings confined planned

theorem planArray_makings (given : Gives (planArray env recurse site) pass (some program) next) :
    env.MakesAll program.steps := by
  obtain ⟨impossible, -⟩ | ⟨_, element, items, middle, same, -, planned, packs⟩ :=
    planArray_gives given
  · cases impossible
  obtain rfl := Option.some.inj same
  refine pack_makings ?_ packs
  rcases planned with ⟨-, elements⟩ | ⟨item, planned, rfl⟩ | ⟨-, rfl⟩
  · exact planElements_makings confined elements
  · exact List.forall_mem_singleton.mpr (confined planned)
  · simp

theorem insertSegments_makings {type : Option DictionaryType} {value : Target}
    {target : Register} {segments : List (String × String)} {steps : List Step}
    (given : Gives (insertSegments env recurse site type value target segments) pass steps next) :
    env.MakesAll steps := by
  induction segments generalizing pass steps with
  | nil =>
      obtain ⟨rfl, -⟩ := gives_pure.mp given
      simp
  | cons segment rest ih =>
      obtain ⟨found, middle, others, planned, later, rfl⟩ := insertSegments_cons given
      cases found with
      | none => simpa using ih later
      | some item => simp [confined planned, ih later]

theorem planEntries_makings {type : Option DictionaryType} {value : Target}
    (given : Gives (planEntries env recurse site type value) pass (some program) next) :
    env.MakesAll program.steps := by
  obtain ⟨impossible, -⟩ | ⟨start, middle, inserts, starts, inserted, same⟩ :=
    planEntries_gives given
  · cases impossible
  obtain rfl := Option.some.inj same
  have started : env.MakesAll start.steps :=
    reuseOrCreate_makings (by simp [Program.single]) starts
  refine Environment.makesAll_append.mpr ⟨started, ?_⟩
  obtain ⟨leaf, -, groups⟩ | ⟨-, segments⟩ := planInserts_gives inserted
  · exact insertGroups_makings groups
  · exact insertSegments_makings confined segments

theorem planDictionary_makings
    (given : Gives (planDictionary env recurse site) pass (some program) next) :
    env.MakesAll program.steps := by
  obtain ⟨impossible, -⟩ | ⟨value, -, planned⟩ | ⟨type, -, planned⟩ :=
    planDictionary_gives given
  · cases impossible
  · exact planEntries_makings confined planned
  · exact planEntries_makings confined planned

/-! ## Instances -/

theorem planSink_makings {target : Target}
    (given : Gives (planSink env recurse site target) pass (some program) next) :
    env.MakesAll program.steps := by
  obtain ⟨impossible, -⟩ | planned := planSink_gives given
  · cases impossible
  · exact confined planned

theorem planArgument_makings {parameter : Parameter}
    (given : Gives (planArgument env recurse site parameter) pass program next) :
    env.MakesAll program.steps := by
  obtain named | ⟨middle, -, ⟨-, sunk⟩ | ⟨between, -, isDefault⟩⟩ := planArgument_gives given
  · obtain ⟨impossible, -⟩ | ⟨leaf, column, _, same, -, -, reads⟩ | ⟨-, planned⟩ :=
      planNamedArgument_gives named
    · cases impossible
    · obtain rfl := Option.some.inj same
      exact read_makings reads
    · exact confined planned
  · exact planSink_makings confined sunk
  · exact constant_makings isDefault

theorem planArguments_makings {parameters : List Parameter} {arguments : List Program}
    (given : Gives (planArguments env recurse site parameters) pass arguments next) :
    ∀ argument ∈ arguments, env.MakesAll argument.steps := by
  induction parameters generalizing pass arguments with
  | nil =>
      obtain ⟨rfl, -⟩ := gives_pure.mp given
      simp
  | cons parameter rest ih =>
      obtain ⟨first, middle, others, planned, later, rfl⟩ := planArguments_cons given
      exact List.forall_mem_cons.mpr ⟨planArgument_makings confined planned, ih later⟩

/-- The only place where a constructor is used, after it has been chosen for the site. -/
theorem planInstance_makings {type : ObjectType} {factory : Option Factory}
    (given : Gives (planInstance env recurse site type factory) pass program next) :
    env.MakesAll program.steps := by
  obtain ⟨maker, -, -, rfl⟩ | ⟨-, constructor, arguments, middle, chosen, planned, -, rfl⟩ :=
    planInstance_gives given
  · simp [Program.single]
  · have made : env.Makes ⟨type, constructor⟩ :=
      ⟨⟨env.header, pass.claims, site.scope⟩, rfl, ObjectTypeOf.chooses_of_chosen chosen⟩
    have each := planArguments_makings confined planned
    simpa [Environment.makesAll_flatMap, made] using each

theorem setProperty_makings {target : Register} {property : Property} {steps : List Step}
    (given : Gives (setProperty env recurse site target property) pass steps next) :
    env.MakesAll steps := by
  obtain ⟨leaf, -, ⟨rfl, -⟩ | ⟨column, value, reads, -, rfl⟩⟩ | ⟨-, found, planned, rfl⟩ :=
    setProperty_gives given
  · simp
  · simp [read_makings reads]
  · cases found with
    | none => simp
    | some value => simp [confined planned]

theorem setSink_makings {target : Register} {property : Property} {steps : List Step}
    (given : Gives (setSink env recurse site target property) pass steps next) :
    env.MakesAll steps := by
  obtain ⟨found, planned, rfl⟩ := setSink_gives given
  cases found with
  | none => simp [setSteps]
  | some value => simp [setSteps, planSink_makings confined planned]

omit confined in
theorem setEach_makings {assign : Property → Planning (List Step)} {properties : List Property}
    {steps : List Step}
    (each : ∀ {property : Property} {pass next : Pass} {steps : List Step},
      Gives (assign property) pass steps next → env.MakesAll steps)
    (given : Gives (setEach assign properties) pass steps next) : env.MakesAll steps := by
  induction properties generalizing pass steps with
  | nil =>
      obtain ⟨rfl, -⟩ := gives_pure.mp given
      simp
  | cons property rest ih =>
      obtain ⟨first, middle, others, assigned, later, rfl⟩ := setEach_cons given
      exact Environment.makesAll_append.mpr ⟨each assigned, ih later⟩

theorem planAssigned_makings {type : ObjectType} {start : Program}
    (started : env.MakesAll start.steps)
    (given : Gives (planAssigned env recurse site type start) pass program next) :
    env.MakesAll program.steps := by
  obtain ⟨assigns, set, rfl⟩ := planAssigned_gives given
  obtain ⟨plain, middle, sinks, setPlain, setSinks, rfl⟩ := setProperties_gives set
  refine Environment.makesAll_append.mpr ⟨started, Environment.makesAll_append.mpr ⟨?_, ?_⟩⟩
  · exact setEach_makings (setProperty_makings confined) setPlain
  · exact setEach_makings (setSink_makings confined) setSinks

theorem planConcrete_makings {type : ObjectType} {factory : Option Factory}
    (given : Gives (planConcrete env recurse site type factory) pass program next) :
    env.MakesAll program.steps := by
  obtain ⟨start, middle, created, assigned⟩ := planConcrete_gives given
  exact planAssigned_makings confined (planInstance_makings confined created) assigned

theorem planSingle_makings {declared : ObjectType} {own : Option TypePolicy}
    (given : Gives (planSingle env recurse site declared own) pass program next) :
    env.MakesAll program.steps := by
  obtain ⟨create, middle, start, between, created, started, assigned⟩ := planSingle_gives given
  have creates := planInstance_makings confined created
  exact planAssigned_makings confined (reuseOrCreate_makings creates started) assigned

theorem planBranches_makings {start : Claims} {rules : List SubtypeCase}
    {branches : List (Branch × Claims)}
    (given : Gives (planBranches env recurse site start rules) pass branches next) :
    ∀ branch ∈ branches, env.MakesAll branch.1.program.steps := by
  induction rules generalizing pass branches with
  | nil =>
      obtain ⟨rfl, -⟩ := gives_pure.mp given
      simp
  | cons rule rest ih =>
      obtain ⟨program, middle, others, planned, later, rfl⟩ := planBranches_cons given
      exact List.forall_mem_cons.mpr ⟨planConcrete_makings confined planned, ih later⟩

theorem planFallback_makings {declared : ObjectType} {own : TypePolicy}
    (given : Gives (planFallback env recurse site declared own) pass program next) :
    env.MakesAll program.steps := by
  obtain ⟨default, -, planned⟩ | ⟨-, -, -, rfl⟩ | ⟨-, -, planned⟩ := planFallback_gives given
  · exact planConcrete_makings confined planned
  · simp [Program.single]
  · exact planConcrete_makings confined planned

theorem planPolymorphic_makings {declared : ObjectType} {own : TypePolicy}
    (given : Gives (planPolymorphic env recurse site declared own) pass program next) :
    env.MakesAll program.steps := by
  obtain ⟨branches, middle, fallback, between, branched, fell, planned⟩ :=
    planPolymorphic_gives given
  have selects : env.MakesAll (selection branches fallback between.nextRegister).steps := by
    refine Environment.makesAll_select.mpr ⟨?_, planFallback_makings confined fell⟩
    simpa using planBranches_makings confined branched
  rcases planned with ⟨-, rfl, -⟩ | ⟨existing, update, after, -, updated, rfl, -⟩
  · exact selects
  · have updates := planAssigned_makings confined (by simp [Program.keep]) updated
    exact Environment.makesAll_reuse.mpr ⟨updates, selects⟩

theorem planObject_makings (given : Gives (planObject env recurse site) pass (some program) next) :
    env.MakesAll program.steps := by
  obtain ⟨impossible, -⟩ | ⟨_, declared, same, -, planned⟩ := planObject_gives given
  · cases impossible
  obtain rfl := Option.some.inj same
  rcases planned with ⟨-, single⟩ | ⟨own, -, -, several⟩
  · exact planSingle_makings confined single
  · exact planPolymorphic_makings confined several

theorem standardPlanners_makings {planner : Planner}
    (member : planner ∈ standardPlanners env recurse)
    (given : Gives (planner site) pass (some program) next) : env.MakesAll program.steps := by
  simp only [standardPlanners, List.mem_cons, List.not_mem_nil, or_false] at member
  rcases member with rfl | rfl | rfl | rfl | rfl | rfl | rfl
  · obtain ⟨impossible, -⟩ | ⟨-, planned⟩ := planUntypedMember_gives given
    · cases impossible
    · exact planUntyped_makings planned
  · exact planLeaf_makings given
  · exact planTuple_makings confined given
  · exact planArray_makings confined given
  · exact planDictionary_makings confined given
  · exact planSequence_makings confined given
  · exact planObject_makings confined given

end Recursion

theorem standard_makings (levels : Nat) : Confined env (standard env levels) := by
  induction levels with
  | zero =>
      intro site pass next program given
      exact absurd given gives_throw
  | succ levels ih =>
      intro site pass next program given
      obtain ⟨impossible, -⟩ | ⟨below, isBelow, planner, member, _, same, planned⟩ :=
        standard_gives given
      · cases impossible
      · obtain rfl := Nat.succ.inj isBelow
        obtain rfl := Option.some.inj same
        exact standardPlanners_makings ih member planned

end Planning

end Unflatten
