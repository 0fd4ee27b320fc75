import Unflatten.Proofs.Planning.Closure
import Unflatten.Proofs.Planning.Instances
import Unflatten.Proofs.Planning.Reading

/-!
# The planners plan blocks

Each planner plans programs in the sense of `Planned` if the planner of its members does. The
standard strategy therefore does at every number of levels.
-/

set_option autoImplicit false

namespace Unflatten.Planning

/-- What planners rely on for the members of a site. -/
structure Reliable (env : Environment) (recurse : Planner) : Prop where
  plans : ∀ {site : Site} {pass next : Pass} {program : Program},
    pass.claims.length = env.header.length →
    (∀ register, site.existing = some register → register < pass.nextRegister) →
    Gives (recurse site) pass (some program) next → Planned site.existing pass program next
  declines : DeclinesCleanly recurse
  climbs : ∀ site, Climbs (recurse site)

variable {env : Environment} {recurse : Planner} {site : Site} {pass next : Pass}
variable {program : Program} {result : Option Program}

theorem Reliable.new (reliable : Reliable env recurse)
    (sized : pass.claims.length = env.header.length) (fresh : site.existing = none)
    (given : Gives (recurse site) pass (some program) next) :
    Planned none pass program next := by
  have planned := reliable.plans sized (by simp [fresh]) given
  rw [fresh] at planned
  exact planned

/-! ## Leaves -/

section Leaves

variable (indexed : env.header.WellIndexed)
variable (sized : pass.claims.length = env.header.length)
include indexed sized

theorem planUntyped_planned (given : Gives (planUntyped env site) pass (some program) next) :
    Planned none pass program next := by
  rcases planUntyped_gives given with ⟨impossible, -⟩ | ⟨planned, leaf, same, -, -, ways⟩
  · cases impossible
  cases same
  have unclaimed := Header.available_unclaimed site.scope indexed sized
  rcases ways with ⟨-, steps, inserts, rfl⟩ | default | ⟨column, only, reads⟩ |
    ⟨items, middle, reads, packs⟩
  · have groups := (unclaimed.perm Header.namesakes_perm).advanced
    have starts : Planned none pass
        (Program.single (.startMap none pass.nextRegister) pass.nextRegister) pass.advanced :=
      Planned.write (by rw [Step.paths]) (by rw [Step.columns]) (by rw [Step.registers])
    have adds := insertGroups_planned starts.below groups inserts
    exact starts.filled adds
  · exact constant_planned default
  · rw [only] at unclaimed
    exact (read_planned unclaimed reads).1
  · exact pack_planned (readAll_planned unclaimed reads).1 packs

theorem planLeaf_planned (given : Gives (planLeaf env site) pass (some program) next) :
    Planned none pass program next := by
  rcases planLeaf_gives given with ⟨impossible, -⟩ | ⟨planned, leaf, same, -, ways⟩
  · cases impossible
  cases same
  rcases ways with ⟨column, first, reads⟩ | ⟨-, given⟩
  · have unclaimed := Header.available_unclaimed site.scope indexed sized
    exact (read_planned (unclaimed.single (List.mem_of_head? first)) reads).1
  · exact constant_planned given

end Leaves

/-! ## Containers -/

section Containers

variable (indexed : env.header.WellIndexed) (reliable : Reliable env recurse)
variable (sized : pass.claims.length = env.header.length)

theorem reuseOrCreate_planned {expectation : Expectation} {create : Program} {middle : Pass}
    (known : ∀ register, site.existing = some register → register < pass.nextRegister)
    (creates : Planned none pass create middle)
    (given : Gives (reuseOrCreate site expectation create) middle program next) :
    Planned site.existing pass program next := by
  rcases reuseOrCreate_gives given with ⟨fresh, rfl, rfl⟩ | ⟨existing, found, rfl, rfl⟩
  · rw [fresh]
    exact creates
  · have old := known existing found
    have creates : Planned (some existing) pass create middle :=
      creates.ofNew (Register.known_existing rfl old)
    have older := creates.block.onward.registers
    have keeps : FitsIn [existing] pass (Program.keep existing) middle.nextRegister :=
      ⟨Or.inl (by simp [Program.keep]), pass, older, Block.nil (by simpa using old)⟩
    rw [found]
    refine ⟨Block.reuse old keeps (creates.fitsIn (Nat.le_refl _)) rfl
      creates.block.onward.length fun column => ?_, older⟩
    rw [programColumns_eq, programColumns_eq]
    simp [Pass.advanced, creates.block.columns column, Program.keep, stepsColumns]

include reliable in
theorem planSlots_planned {slots : List Target} {items : List Program}
    (sized : pass.claims.length = env.header.length)
    (given : Gives (planSlots env recurse site slots) pass items next) :
    Items pass items next := by
  induction slots generalizing pass items with
  | nil =>
      obtain ⟨rfl, rfl⟩ := gives_pure.mp given
      exact Items.nil rfl (Nat.le_refl _)
  | cons target rest ih =>
      obtain ⟨first, middle, others, way, slots, rfl⟩ := planSlots_cons given
      have planned : Planned none pass first middle := by
        rcases way with slot | ⟨between, declined, default⟩
        · exact reliable.new sized rfl slot
        · obtain rfl := reliable.declines declined
          exact constant_planned default
      exact Items.cons planned (ih (planned.block.onward.length.trans sized) slots)

include reliable sized in
theorem planTuple_planned (given : Gives (planTuple env recurse site) pass (some program) next) :
    Planned none pass program next := by
  rcases planTuple_gives given with ⟨impossible, -⟩ |
    ⟨planned, slots, items, middle, same, -, slotsPlanned, packs⟩
  · cases impossible
  cases same
  exact pack_planned (planSlots_planned reliable sized slotsPlanned) packs

include reliable in
theorem repeatElement_planned {element : Target} {limit : Nat} {items : List Program}
    (sized : pass.claims.length = env.header.length)
    (given : Gives (repeatElement env recurse site element limit) pass items next) :
    Items pass items next := by
  induction limit generalizing pass items with
  | zero =>
      obtain ⟨rfl, rfl⟩ := gives_pure.mp given
      exact Items.nil rfl (Nat.le_refl _)
  | succ limit ih =>
      rcases repeatElement_succ given with ⟨rfl, found, middle, planned, rfl⟩ |
        ⟨item, middle, planned, -, rest⟩
      · have up := reliable.climbs (site.element env element) pass
        rw [planned] at up
        exact Items.nil rfl up
      · have first := reliable.new sized rfl planned
        rcases rest with ⟨others, more, rfl⟩ | ⟨failure, failed, rfl⟩
        · exact Items.cons first (ih (first.block.onward.length.trans sized) more)
        · exact Items.cons first (Items.nil (repeatElement_fails failed)
            ((climbs_repeatElement reliable.climbs).fails failed))

include indexed reliable sized in
theorem planElements_planned {element : Target} {items : List Program}
    (given : Gives (planElements env recurse site element) pass items next) :
    Items pass items next := by
  rcases planElements_gives given with ⟨leaf, -, reads⟩ | ⟨-, repeats⟩
  · exact (readAll_planned (Header.available_unclaimed site.scope indexed sized) reads).1
  · exact repeatElement_planned reliable sized repeats

theorem appendSteps_planned {type : Option SequenceType} {target : Register}
    {items : List Program} (planned : Items pass items next)
    (known : target < pass.nextRegister) :
    Block [target] [target] pass (appendSteps type target items) next := by
  unfold appendSteps
  induction planned with
  | nil claims registers => exact Block.idle known claims registers
  | @cons pass middle next first rest planned later ih =>
      rw [List.flatMap_cons]
      have adds := planned.added (.addItem type target first.result) known (by simp)
        (by rw [Step.paths]) (by rw [Step.columns]) (by rw [Step.registers])
      exact adds.onTarget (ih (Nat.lt_of_lt_of_le known planned.block.onward.registers))

include indexed reliable sized in
theorem planItems_planned {type : Option SequenceType} {element : Target}
    (known : ∀ register, site.existing = some register → register < pass.nextRegister)
    (given : Gives (planItems env recurse site type element) pass (some program) next) :
    Planned site.existing pass program next := by
  rcases planItems_gives given with ⟨impossible, -⟩ | ⟨start, middle, items, starts, elements,
    same⟩
  · cases impossible
  cases same
  have created : Planned none pass
      (Program.single (.startSequence type pass.nextRegister) pass.nextRegister) pass.advanced :=
    Planned.write (by rw [Step.paths]) (by rw [Step.columns]) (by rw [Step.registers])
  have started := reuseOrCreate_planned known created starts
  have planned := planElements_planned indexed reliable
    (started.block.onward.length.trans sized) elements
  exact started.filled (appendSteps_planned planned started.below)

include indexed reliable sized in
theorem planSequence_planned
    (known : ∀ register, site.existing = some register → register < pass.nextRegister)
    (given : Gives (planSequence env recurse site) pass (some program) next) :
    Planned site.existing pass program next := by
  rcases planSequence_gives given with ⟨impossible, -⟩ | ⟨element, -, given⟩ | ⟨type, -, given⟩
  · cases impossible
  · exact planItems_planned indexed reliable sized known given
  · exact planItems_planned indexed reliable sized known given

include indexed reliable sized in
theorem planArray_planned (given : Gives (planArray env recurse site) pass (some program) next) :
    Planned none pass program next := by
  rcases planArray_gives given with ⟨impossible, -⟩ |
    ⟨planned, element, items, middle, same, -, way, packs⟩
  · cases impossible
  cases same
  refine pack_planned ?_ packs
  rcases way with ⟨-, elements⟩ | ⟨item, planned, rfl⟩ | ⟨declined, rfl⟩
  · exact planElements_planned indexed reliable sized elements
  · exact Items.cons (reliable.new sized rfl planned) (Items.nil rfl (Nat.le_refl _))
  · obtain rfl := reliable.declines declined
    exact Items.nil rfl (Nat.le_refl _)

include reliable in
theorem insertSegments_planned {type : Option DictionaryType} {value : Target}
    {target : Register} {segments : List (String × String)} {steps : List Step}
    (sized : pass.claims.length = env.header.length) (known : target < pass.nextRegister)
    (given : Gives (insertSegments env recurse site type value target segments) pass steps next) :
    Block [target] [target] pass steps next := by
  induction segments generalizing pass steps with
  | nil =>
      obtain ⟨rfl, rfl⟩ := gives_pure.mp given
      exact Block.idle known rfl (Nat.le_refl _)
  | cons head rest ih =>
      obtain ⟨segment, key⟩ := head
      obtain ⟨found, middle, others, planned, inserts, rfl⟩ := insertSegments_cons given
      cases found with
      | none =>
          obtain rfl := reliable.declines planned
          exact ih sized known inserts
      | some item =>
          have first := reliable.new sized rfl planned
          have onward := first.block.onward
          have adds := first.added (.addEntry type target key item.result) known (by simp)
            (by rw [Step.paths]) (by rw [Step.columns]) (by rw [Step.registers])
          exact adds.onTarget (ih (onward.length.trans sized)
            (Nat.lt_of_lt_of_le known onward.registers) inserts)

include indexed reliable sized in
theorem planInserts_planned {type : Option DictionaryType} {value : Target} {target : Register}
    {steps : List Step} (known : target < pass.nextRegister)
    (given : Gives (planInserts env recurse site type value target) pass steps next) :
    Block [target] [target] pass steps next := by
  rcases planInserts_gives given with ⟨leaf, -, inserts⟩ | ⟨-, inserts⟩
  · have unclaimed := Header.available_unclaimed site.scope indexed sized
    exact insertGroups_planned known (unclaimed.perm Header.namesakes_perm) inserts
  · exact insertSegments_planned reliable sized known inserts

include indexed reliable sized in
theorem planEntries_planned {type : Option DictionaryType} {value : Target}
    (known : ∀ register, site.existing = some register → register < pass.nextRegister)
    (given : Gives (planEntries env recurse site type value) pass (some program) next) :
    Planned site.existing pass program next := by
  rcases planEntries_gives given with ⟨impossible, -⟩ | ⟨start, middle, steps, starts, fills,
    same⟩
  · cases impossible
  cases same
  have created : Planned none pass
      (Program.single (.startMap type pass.nextRegister) pass.nextRegister) pass.advanced :=
    Planned.write (by rw [Step.paths]) (by rw [Step.columns]) (by rw [Step.registers])
  have started := reuseOrCreate_planned known created starts
  exact started.filled (planInserts_planned indexed reliable
    (started.block.onward.length.trans sized) started.below fills)

include indexed reliable sized in
theorem planDictionary_planned
    (known : ∀ register, site.existing = some register → register < pass.nextRegister)
    (given : Gives (planDictionary env recurse site) pass (some program) next) :
    Planned site.existing pass program next := by
  rcases planDictionary_gives given with ⟨impossible, -⟩ | ⟨value, -, given⟩ | ⟨type, -, given⟩
  · cases impossible
  · exact planEntries_planned indexed reliable sized known given
  · exact planEntries_planned indexed reliable sized known given

end Containers

/-! ## Objects -/

section Objects

variable (indexed : env.header.WellIndexed) (reliable : Reliable env recurse)
variable (sized : pass.claims.length = env.header.length)

include reliable sized in
theorem planSink_planned {target : Target}
    (given : Gives (planSink env recurse site target) pass (some program) next) :
    Planned none pass program next := by
  rcases planSink_gives given with ⟨impossible, -⟩ | given
  · cases impossible
  · exact reliable.new sized rfl given

include reliable in
theorem planSink_declines {target : Target}
    (given : Gives (planSink env recurse site target) pass none next) : next = pass := by
  rcases planSink_gives given with ⟨-, same⟩ | given
  · exact same
  · exact reliable.declines given

include indexed reliable sized in
theorem planNamedArgument_planned {parameter : Parameter}
    (given : Gives (planNamedArgument env recurse site parameter) pass (some program) next) :
    Planned none pass program next := by
  rcases planNamedArgument_gives given with ⟨impossible, -⟩ |
    ⟨leaf, column, planned, same, -, found, reads⟩ | ⟨-, member⟩
  · cases impossible
  · cases same
    exact (read_planned (Header.find?_unclaimed indexed sized found) reads).1
  · exact reliable.new sized rfl member

include reliable in
theorem planNamedArgument_declines {parameter : Parameter}
    (given : Gives (planNamedArgument env recurse site parameter) pass none next) :
    next = pass := by
  rcases planNamedArgument_gives given with ⟨-, same⟩ | ⟨_, _, _, impossible, -⟩ | ⟨-, member⟩
  · exact same
  · cases impossible
  · exact reliable.declines member

include indexed reliable sized in
theorem planArgument_planned {parameter : Parameter}
    (given : Gives (planArgument env recurse site parameter) pass program next) :
    Planned none pass program next := by
  rcases planArgument_gives given with named | ⟨middle, declined, way⟩
  · exact planNamedArgument_planned indexed reliable sized named
  · obtain rfl := planNamedArgument_declines reliable declined
    rcases way with ⟨-, sink⟩ | ⟨between, refused, default⟩
    · exact planSink_planned reliable sized sink
    · rcases refused with rfl | refused
      · exact constant_planned default
      · obtain rfl := planSink_declines reliable refused
        exact constant_planned default

include indexed reliable in
theorem planArguments_planned {parameters : List Parameter} {arguments : List Program}
    (sized : pass.claims.length = env.header.length)
    (given : Gives (planArguments env recurse site parameters) pass arguments next) :
    Items pass arguments next := by
  induction parameters generalizing pass arguments with
  | nil =>
      obtain ⟨rfl, rfl⟩ := gives_pure.mp given
      exact Items.nil rfl (Nat.le_refl _)
  | cons parameter rest ih =>
      obtain ⟨first, middle, others, argument, later, rfl⟩ := planArguments_cons given
      have planned := planArgument_planned indexed reliable sized argument
      exact Items.cons planned (ih (planned.block.onward.length.trans sized) later)

include indexed reliable sized in
theorem planInstance_planned {type : ObjectType} {factory : Option Factory}
    (given : Gives (planInstance env recurse site type factory) pass program next) :
    Planned none pass program next := by
  rcases planInstance_gives given with ⟨maker, -, rfl, rfl⟩ |
    ⟨-, constructor, arguments, middle, -, planned, rfl, rfl⟩
  · exact Planned.write (by rw [Step.paths]) (by rw [Step.columns]) (by rw [Step.registers])
  · exact (planArguments_planned indexed reliable sized planned).gathered (by rw [Step.paths])
      (by rw [Step.columns]) (by rw [Step.registers])

include indexed reliable sized in
theorem setProperty_planned {target : Register} {property : Property} {steps : List Step}
    (known : target < pass.nextRegister)
    (given : Gives (setProperty env recurse site target property) pass steps next) :
    Block [target] [target] pass steps next := by
  rcases setProperty_gives given with ⟨leaf, -, way⟩ | ⟨-, found, member, rfl⟩
  · rcases way with ⟨rfl, rfl⟩ | ⟨column, value, reads, found, rfl⟩
    · exact Block.idle known rfl (Nat.le_refl _)
    · have planned := (read_planned (Header.find?_unclaimed indexed sized found) reads).1
      exact planned.added (.assign target property.name value.result) known (by simp)
        (by rw [Step.paths]) (by rw [Step.columns]) (by rw [Step.registers])
  · cases found with
    | none =>
        obtain rfl := reliable.declines member
        exact Block.idle known rfl (Nat.le_succ _)
    | some value =>
        have existing : ∀ register,
            (site.member env property.name property.target (some pass.nextRegister)).existing =
              some register → register < pass.advanced.nextRegister :=
          Register.known_existing rfl (Nat.lt_succ_self _)
        have sized : pass.advanced.claims.length = env.header.length := sized
        have planned := reliable.plans sized existing member
        have projects := Block.project property.name known
        have adds := planned.added (.assign target property.name value.result)
          (Nat.lt_succ_of_lt known) (by simpa [Site.member] using Nat.ne_of_lt known)
          (by rw [Step.paths]) (by rw [Step.columns]) (by rw [Step.registers])
        refine projects.append adds fun register isGiven => ?_
        rcases List.mem_cons.mp isGiven with rfl | isGiven
        · exact Or.inl (by simp)
        · rw [List.mem_singleton.mp isGiven]
          exact Or.inr (Nat.le_refl _)

include reliable sized in
theorem setSink_planned {target : Register} {property : Property} {steps : List Step}
    (known : target < pass.nextRegister)
    (given : Gives (setSink env recurse site target property) pass steps next) :
    Block [target] [target] pass steps next := by
  obtain ⟨found, sink, rfl⟩ := setSink_gives given
  cases found with
  | none =>
      obtain rfl := planSink_declines reliable sink
      exact Block.idle known rfl (Nat.le_refl _)
  | some value =>
      exact (planSink_planned reliable sized sink).added
        (.assign target property.name value.result) known (by simp)
        (by rw [Step.paths]) (by rw [Step.columns]) (by rw [Step.registers])

theorem setEach_planned {target : Register} {assign : Property → Planning (List Step)}
    {properties : List Property} {steps : List Step}
    (each : ∀ {property : Property} {pass next : Pass} {steps : List Step},
      pass.claims.length = env.header.length → target < pass.nextRegister →
      Gives (assign property) pass steps next → Block [target] [target] pass steps next)
    (sized : pass.claims.length = env.header.length) (known : target < pass.nextRegister)
    (given : Gives (setEach assign properties) pass steps next) :
    Block [target] [target] pass steps next := by
  induction properties generalizing pass steps with
  | nil =>
      obtain ⟨rfl, rfl⟩ := gives_pure.mp given
      exact Block.idle known rfl (Nat.le_refl _)
  | cons property rest ih =>
      obtain ⟨first, middle, others, planned, later, rfl⟩ := setEach_cons given
      have block := each sized known planned
      exact block.onTarget (ih (block.onward.length.trans sized)
        (Nat.lt_of_lt_of_le known block.onward.registers) later)

include indexed reliable sized in
theorem setProperties_planned {type : ObjectType} {target : Register} {steps : List Step}
    (known : target < pass.nextRegister)
    (given : Gives (setProperties env recurse site type target) pass steps next) :
    Block [target] [target] pass steps next := by
  obtain ⟨plain, middle, sinks, planPlain, planSinks, rfl⟩ := setProperties_gives given
  have first := setEach_planned
    (fun sized known given => setProperty_planned indexed reliable sized known given)
    sized known planPlain
  have second := setEach_planned
    (fun sized known given => setSink_planned reliable sized known given)
    (first.onward.length.trans sized) (Nat.lt_of_lt_of_le known first.onward.registers) planSinks
  exact first.onTarget second

include indexed reliable in
theorem planAssigned_planned {existing : Option Register} {type : ObjectType} {start : Program}
    {middle : Pass} (sized : middle.claims.length = env.header.length)
    (starts : Planned existing pass start middle)
    (given : Gives (planAssigned env recurse site type start) middle program next) :
    Planned existing pass program next := by
  obtain ⟨assigns, planned, rfl⟩ := planAssigned_gives given
  exact starts.filled (setProperties_planned indexed reliable sized starts.below planned)

include indexed reliable sized in
theorem planConcrete_planned {type : ObjectType} {factory : Option Factory}
    (given : Gives (planConcrete env recurse site type factory) pass program next) :
    Planned none pass program next := by
  obtain ⟨start, middle, created, assigned⟩ := planConcrete_gives given
  have starts := planInstance_planned indexed reliable sized created
  exact planAssigned_planned indexed reliable (starts.block.onward.length.trans sized) starts
    assigned

include indexed reliable sized in
theorem planSingle_planned {declared : ObjectType} {own : Option TypePolicy}
    (known : ∀ register, site.existing = some register → register < pass.nextRegister)
    (given : Gives (planSingle env recurse site declared own) pass program next) :
    Planned site.existing pass program next := by
  obtain ⟨create, middle, start, between, created, started, assigned⟩ := planSingle_gives given
  have creates := planInstance_planned indexed reliable sized created
  have starts := reuseOrCreate_planned known creates started
  exact planAssigned_planned indexed reliable (starts.block.onward.length.trans sized) starts
    assigned

/-! ## Subtypes -/

/-- Branches with what each of them claims, all planned from one pass. -/
def Branching (pass : Pass) (branches : List (Branch × Claims)) (limit : Register) : Prop :=
  ∀ branch ∈ branches, ∃ next, next.claims = branch.2 ∧ next.nextRegister ≤ limit ∧
    Planned none pass branch.1.program next

include indexed reliable in
theorem planBranches_planned {start : Pass} {rules : List SubtypeCase}
    {branches : List (Branch × Claims)} (sized : start.claims.length = env.header.length)
    (later : start.nextRegister ≤ pass.nextRegister)
    (given : Gives (planBranches env recurse site start.claims rules) pass branches next) :
    pass.nextRegister ≤ next.nextRegister ∧ Branching start branches next.nextRegister := by
  induction rules generalizing pass branches with
  | nil =>
      obtain ⟨rfl, rfl⟩ := gives_pure.mp given
      exact ⟨Nat.le_refl _, by simp [Branching]⟩
  | cons rule rest ih =>
      obtain ⟨first, middle, others, concrete, rest, rfl⟩ := planBranches_cons given
      have sizedHere : (Pass.mk start.claims pass.nextRegister).claims.length =
          env.header.length := sized
      have planned := planConcrete_planned indexed reliable sizedHere concrete
      have up : pass.nextRegister ≤ middle.nextRegister := planned.block.onward.registers
      obtain ⟨upRest, branching⟩ := ih (Nat.le_trans later up) rest
      refine ⟨Nat.le_trans up upRest, fun branch member => ?_⟩
      rcases List.mem_cons.mp member with rfl | member
      · exact ⟨middle, rfl, upRest, planned.widen (by simp) rfl later rfl (Nat.le_refl _)⟩
      · exact branching branch member

include indexed reliable sized in
theorem planFallback_planned {declared : ObjectType} {own : TypePolicy}
    (given : Gives (planFallback env recurse site declared own) pass program next) :
    Planned none pass program next := by
  rcases planFallback_gives given with ⟨default, -, planned⟩ | ⟨-, -, rfl, rfl⟩ | ⟨-, -, planned⟩
  · exact planConcrete_planned indexed reliable sized planned
  · exact Planned.fail _
  · exact planConcrete_planned indexed reliable sized planned

theorem Branching.columns {start : Pass} {branches : List (Branch × Claims)} {limit : Register}
    (branching : Branching start branches limit) (column : Nat) :
    (start.claims.isClaimed column = true ∨
        ∃ outcome ∈ branches.map Prod.snd, outcome.isClaimed column = true) ↔
      start.claims.isClaimed column = true ∨
        column ∈ branchColumns (branches.map Prod.fst) := by
  rw [branchColumns_mem]
  constructor
  · rintro (claimed | ⟨outcome, member, claimed⟩)
    · exact Or.inl claimed
    · obtain ⟨branch, isBranch, rfl⟩ := List.mem_map.mp member
      obtain ⟨next, same, -, planned⟩ := branching branch isBranch
      rw [← same] at claimed
      rcases (planned.block.columns column).mp claimed with earlier | isRead
      · exact Or.inl earlier
      · exact Or.inr ⟨branch.1, List.mem_map_of_mem isBranch, isRead⟩
  · rintro (claimed | ⟨branch, member, isRead⟩)
    · exact Or.inl claimed
    · obtain ⟨pair, isBranch, rfl⟩ := List.mem_map.mp member
      obtain ⟨next, same, -, planned⟩ := branching pair isBranch
      refine Or.inr ⟨pair.2, List.mem_map_of_mem isBranch, ?_⟩
      rw [← same]
      exact (planned.block.columns column).mpr (Or.inr isRead)

/-- What is claimed after all branches and the fallback. -/
def mergedClaims (start : Claims) (branches : List (Branch × Claims)) (fallback : Claims) :
    Claims :=
  (branches.map Prod.snd ++ [fallback]).foldl Claims.merge start

theorem mergedClaims_claimed {start between : Pass} {branches : List (Branch × Claims)}
    {limit : Register} {fallback : Program} (branching : Branching start branches limit)
    (falls : Planned none start fallback between) :
    (mergedClaims start.claims branches between.claims).length = start.claims.length ∧
      ∀ column, (mergedClaims start.claims branches between.claims).isClaimed column = true ↔
        start.claims.isClaimed column = true ∨ column ∈ branchColumns (branches.map Prod.fst) ∨
          column ∈ programColumns fallback := by
  have same : ∀ outcome ∈ branches.map Prod.snd ++ [between.claims],
      outcome.length = start.claims.length := by
    intro outcome member
    rcases List.mem_append.mp member with member | member
    · obtain ⟨branch, isBranch, rfl⟩ := List.mem_map.mp member
      obtain ⟨next, same, -, planned⟩ := branching branch isBranch
      rw [← same]
      exact planned.block.onward.length
    · rw [List.mem_singleton.mp member]
      exact falls.block.onward.length
  obtain ⟨length, claimed⟩ := Claims.foldl_merge same
  refine ⟨length, fun column => ?_⟩
  have columns := branching.columns column
  have fallbackColumns := falls.block.columns column
  rw [mergedClaims, claimed, programColumns_eq]
  simp only [List.mem_append, List.mem_singleton, or_and_right, exists_or, exists_eq_left]
  rw [← or_assoc, columns, fallbackColumns]
  constructor
  · rintro ((claimed | member) | claimed | member)
    · exact Or.inl claimed
    · exact Or.inr (Or.inl member)
    · exact Or.inl claimed
    · exact Or.inr (Or.inr member)
  · rintro (claimed | member | member)
    · exact Or.inl (Or.inl claimed)
    · exact Or.inl (Or.inr member)
    · exact Or.inr (Or.inr member)

theorem selection_planned {start between : Pass} {branches : List (Branch × Claims)}
    {limit : Register} {fallback : Program} (branching : Branching start branches limit)
    (behind : limit ≤ between.nextRegister) (falls : Planned none start fallback between) :
    Planned none start (selection branches fallback between.nextRegister)
      ⟨mergedClaims start.claims branches between.claims, between.nextRegister + 1⟩ := by
  obtain ⟨length, claimed⟩ := mergedClaims_claimed branching falls
  refine ⟨Block.select ?_ (falls.fitsIn (Nat.le_refl _)) rfl length claimed,
    falls.block.onward.registers⟩
  intro branch member
  obtain ⟨pair, isBranch, rfl⟩ := List.mem_map.mp member
  obtain ⟨next, -, before, planned⟩ := branching pair isBranch
  exact planned.fitsIn (Nat.le_trans before behind)

include indexed reliable sized in
theorem planPolymorphic_planned {declared : ObjectType} {own : TypePolicy}
    (known : ∀ register, site.existing = some register → register < pass.nextRegister)
    (given : Gives (planPolymorphic env recurse site declared own) pass program next) :
    Planned site.existing pass program next := by
  obtain ⟨branches, middle, fallback, between, branchesPlanned, fallbackPlanned, way⟩ :=
    planPolymorphic_gives given
  obtain ⟨up, branching⟩ := planBranches_planned indexed reliable sized (Nat.le_refl _)
    branchesPlanned
  have sizedMiddle : (Pass.mk pass.claims middle.nextRegister).claims.length =
      env.header.length := sized
  have fromMiddle := planFallback_planned indexed reliable sizedMiddle fallbackPlanned
  have behind : middle.nextRegister ≤ between.nextRegister := fromMiddle.block.onward.registers
  have falls : Planned none pass fallback between :=
    fromMiddle.widen (by simp) rfl up rfl (Nat.le_refl _)
  have selects := selection_planned branching behind falls
  rcases way with ⟨fresh, rfl, rfl⟩ | ⟨existing, update, after, found, assigned, rfl, rfl⟩
  · rw [fresh]
    exact selects
  · have old := known existing found
    obtain ⟨assigns, planned, rfl⟩ := planAssigned_gives assigned
    have low := selects.block.onward.registers
    have sizedUpdate : (Pass.mk pass.claims (between.nextRegister + 1)).claims.length =
        env.header.length := sized
    have updates := setProperties_planned indexed reliable sizedUpdate
      (Nat.lt_of_lt_of_le old low) planned
    have above := updates.onward.registers
    have fromStart : Block [existing] [existing] pass assigns after :=
      updates.widen (by simpa using old) rfl low rfl (Nat.le_refl _)
    have updating : FitsIn [existing] pass
        ⟨(Program.keep existing).steps ++ assigns, existing⟩ after.nextRegister :=
      ⟨Or.inl (by simp), after, Nat.le_refl _, fromStart⟩
    have selectsToo : Planned (some existing) pass
        (selection branches fallback between.nextRegister)
        ⟨mergedClaims pass.claims branches between.claims, between.nextRegister + 1⟩ :=
      selects.ofNew (Register.known_existing rfl old)
    have creating := selectsToo.fitsIn above
    have sameLength : (mergedClaims pass.claims branches between.claims).length =
        after.claims.length := selects.block.onward.length.trans fromStart.onward.length.symm
    rw [found]
    refine ⟨Block.reuse old updating creating rfl ?_ fun column => ?_, Nat.le_trans low above⟩
    · rw [List.foldl_append]
      exact (Claims.length_merge sameLength).trans selects.block.onward.length
    · rw [List.foldl_append]
      refine (Claims.isClaimed_merge sameLength column).trans ?_
      have created := selects.block.columns column
      have updated := fromStart.columns column
      rw [programColumns_eq, programColumns_eq]
      simp only [Program.keep, List.nil_append]
      constructor
      · rintro (claimed | claimed)
        · rcases created.mp claimed with earlier | member
          · exact Or.inl earlier
          · exact Or.inr (Or.inr member)
        · rcases updated.mp claimed with earlier | member
          · exact Or.inl earlier
          · exact Or.inr (Or.inl member)
      · rintro (earlier | member | member)
        · exact Or.inl (created.mpr (Or.inl earlier))
        · exact Or.inr (updated.mpr (Or.inr member))
        · exact Or.inl (created.mpr (Or.inr member))

include indexed reliable sized in
theorem planObject_planned
    (known : ∀ register, site.existing = some register → register < pass.nextRegister)
    (given : Gives (planObject env recurse site) pass (some program) next) :
    Planned site.existing pass program next := by
  rcases planObject_gives given with ⟨impossible, -⟩ | ⟨planned, declared, same, -, way⟩
  · cases impossible
  cases same
  rcases way with ⟨-, single⟩ | ⟨own, -, -, polymorphic⟩
  · exact planSingle_planned indexed reliable sized known single
  · exact planPolymorphic_planned indexed reliable sized known polymorphic

end Objects

/-! ## The standard strategy -/

theorem standardPlanners_planned (indexed : env.header.WellIndexed)
    (reliable : Reliable env recurse) (sized : pass.claims.length = env.header.length)
    (known : ∀ register, site.existing = some register → register < pass.nextRegister)
    (planner : Planner) (member : planner ∈ standardPlanners env recurse)
    (given : Gives (planner site) pass (some program) next) :
    Planned site.existing pass program next := by
  simp only [standardPlanners, List.mem_cons, List.not_mem_nil, or_false] at member
  rcases member with rfl | rfl | rfl | rfl | rfl | rfl | rfl
  · rcases planUntypedMember_gives given with ⟨impossible, -⟩ | ⟨-, given⟩
    · cases impossible
    · exact (planUntyped_planned indexed sized given).ofNew known
  · exact (planLeaf_planned indexed sized given).ofNew known
  · exact (planTuple_planned reliable sized given).ofNew known
  · exact (planArray_planned indexed reliable sized given).ofNew known
  · exact planDictionary_planned indexed reliable sized known given
  · exact planSequence_planned indexed reliable sized known given
  · exact planObject_planned indexed reliable sized known given

theorem standard_reliable (indexed : env.header.WellIndexed) (levels : Nat) :
    Reliable env (standard env levels) := by
  induction levels with
  | zero =>
      refine ⟨fun _ _ given => absurd given gives_throw, standard_declines, fun _ => climbs_throw⟩
  | succ levels ih =>
      refine ⟨fun sized known given => ?_, standard_declines, fun _ => climbs_standard⟩
      rcases standard_gives given with ⟨impossible, -⟩ |
        ⟨below, same, planner, member, planned, found, given⟩
      · cases impossible
      · cases same
        cases found
        exact standardPlanners_planned indexed ih sized known planner member given

end Unflatten.Planning
