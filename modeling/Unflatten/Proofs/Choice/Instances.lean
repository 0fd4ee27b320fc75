import Unflatten.Proofs.Choice.Arguments

/-!
# Columns that feed an instance

An instance that a column feeds takes one in an argument of its constructor or in a property that is
set afterwards. Where subtype rules choose among several instances, the claims of all of them are
kept, so one that is fed is enough. With the containers this shows that the standard strategy is
diligent, whatever the number of levels.
-/

set_option autoImplicit false

namespace Unflatten

open Planning

/-- The column has a place in a property of the type. -/
inductive Environment.FeedsProperty (env : Environment) (column : HeaderColumn) (type : ObjectType)
    (scope : Scope) : Prop where
  | leaf {property : Property} {leaf : Leaf} (isProperty : property ∈ plainProperties type)
      (isTyped : (property.target.leaf?.filter fun leaf => !leaf.isAny) = some leaf)
      (bears : scope.nameWithin column = foldName property.name)
  | member {property : Property} (isProperty : property ∈ plainProperties type)
      (isMember : (property.target.leaf?.filter fun leaf => !leaf.isAny) = none)
      (feeds : env.Feeds column (property.target.resolve env.bindings)
        (scope.member property.name env.settings.separator))
  | sink {property : Property} (isProperty : property ∈ sinkProperties type)
      (unnamed : column.folded = foldName env.settings.sentinel)
      (feeds : ∀ indices, column.index ∈ indices →
        env.Feeds column (property.target.resolve env.bindings) (.among indices))

theorem Environment.Feeds.of_object {env : Environment} {column : HeaderColumn}
    {declared : ObjectType} {scope : Scope} (feeds : env.Feeds column (.object declared) scope) :
    ∃ asked ∈ declared.asksFor (env.settings.ofType? declared.name),
      env.FeedsProperty column asked.1 scope ∨ env.NeedsLeaf asked.1 asked.2 := by
  cases feeds with
  | leaf isLeaf => cases isLeaf
  | element isSequence => cases isSequence
  | leafEntry isDictionary | entry isDictionary => cases isDictionary
  | property isAsked isProperty isTyped _ bears =>
      exact ⟨_, isAsked, .inl (.leaf isProperty isTyped bears)⟩
  | member isAsked isProperty isMember _ feeds =>
      exact ⟨_, isAsked, .inl (.member isProperty isMember feeds)⟩
  | sink isAsked isProperty _ unnamed feeds =>
      exact ⟨_, isAsked, .inl (.sink isProperty unnamed feeds)⟩
  | argument isAsked needs => exact ⟨_, isAsked, .inr needs⟩

namespace Planning

variable {env : Environment} {column : HeaderColumn} {recurse : Planner} {site : Site}
variable {pass between next : Pass} {program start : Program} {type declared : ObjectType}
variable {factory : Option Factory}

section Instances

variable (indexed : env.header.WellIndexed) (reliable : Reliable env recurse)
variable (diligent : ∀ column, Diligent env column recurse)

/-! ## Constructors -/

include indexed reliable in
theorem planArguments_grows {parameters : List Parameter} {parameter : Parameter}
    {arguments : List Program} (diligent : Diligent env column recurse)
    (isParameter : parameter ∈ parameters)
    (takes : env.Takes (site.view env pass) parameter column)
    (awaits : site.Awaits env column pass)
    (given : Gives (planArguments env recurse site parameters) pass arguments next) :
    pass.Grows next := by
  induction parameters generalizing pass arguments with
  | nil => cases isParameter
  | cons first rest ih =>
      obtain ⟨program, middle, others, planned, later, rfl⟩ := planArguments_cons given
      have onward := (planArgument_planned indexed reliable awaits.sized planned).block.onward
      have further :=
        planArguments_planned indexed reliable (onward.length.trans awaits.sized) later
      refine awaits.grows_inTurn onward further.block.onward ?_
      rcases List.mem_cons.mp isParameter with rfl | isRest
      · exact .inl (planArgument_grows diligent awaits.sized indexed takes planned)
      · exact .inr fun still => ih isRest (takes.later onward still.isFree) still later

include indexed reliable diligent

/-- The constructor that is chosen is usable, so some column serves its leaf. -/
theorem planInstance_grows (needs : env.NeedsLeaf type factory)
    (awaits : site.Awaits env column pass)
    (given : Gives (planInstance env recurse site type factory) pass program next) :
    pass.Grows next := by
  rcases planInstance_gives given with ⟨maker, made, -⟩ |
    ⟨-, constructor, arguments, middle, chosen, planned, rfl, -⟩
  · cases needs.unmade.symm.trans made
  cases ObjectTypeOf.chooses_of_chosen chosen with
  | preferred isPreferred => cases needs.unpreferred.symm.trans isPreferred
  | best _ _ isBest =>
      have usable := isBest.isUsable
      obtain ⟨parameter, isParameter, isLeaf⟩ :=
        needs.leaves constructor isBest.mem usable.isPublic usable.isInstance
      obtain ⟨serving, serves⟩ := usable.served parameter isParameter
      have takes : env.Takes (site.view env pass) parameter serving := .of_serves isLeaf serves
      have servingAwaits : site.Awaits env serving pass :=
        ⟨awaits.known, awaits.sized, takes.sees.1, takes.sees.2⟩
      have grows := planArguments_grows indexed reliable (diligent serving) isParameter takes
        servingAwaits planned
      exact grows.behind Pass.Onward.advanced

/-! ## Properties -/

omit indexed reliable diligent in
theorem setEach_grows {target : Register} (assign : Property → Planning (List Step))
    {properties : List Property} {property : Property} {steps : List Step}
    (onward : ∀ {property : Property} {pass next : Pass} {steps : List Step},
      pass.claims.length = env.header.length → target < pass.nextRegister →
      Gives (assign property) pass steps next → Block [target] [target] pass steps next)
    (isProperty : property ∈ properties)
    (turn : ∀ {pass next : Pass} {steps : List Step}, site.Awaits env column pass →
      Gives (assign property) pass steps next → pass.Grows next)
    (awaits : site.Awaits env column pass) (known : target < pass.nextRegister)
    (given : Gives (setEach assign properties) pass steps next) : pass.Grows next := by
  induction properties generalizing pass steps with
  | nil => cases isProperty
  | cons first rest ih =>
      obtain ⟨steps, middle, others, planned, later, rfl⟩ := setEach_cons given
      have block := onward awaits.sized known planned
      have stillKnown := Nat.lt_of_lt_of_le known block.onward.registers
      have further := setEach_planned onward (block.onward.length.trans awaits.sized) stillKnown
        later
      refine awaits.grows_inTurn block.onward further.onward ?_
      rcases List.mem_cons.mp isProperty with rfl | isRest
      · exact .inl (turn awaits planned)
      · exact .inr fun still => ih isRest still stillKnown later

omit reliable diligent in
theorem setLeaf_grows {target : Register} {property : Property} {leaf : Leaf} {steps : List Step}
    (isTyped : (property.target.leaf?.filter fun leaf => !leaf.isAny) = some leaf)
    (inScope : site.scope.contains column = true)
    (bears : site.scope.nameWithin column = foldName property.name)
    (awaits : site.Awaits env column pass)
    (given : Gives (setProperty env recurse site target property) pass steps next) :
    pass.Grows next := by
  have isFound : env.header.hasColumn pass.claims site.scope (foldName property.name) = true :=
    (@View.hasColumn_iff (site.view env pass) _).mpr
      ⟨column, ⟨awaits.isColumn, awaits.isFree, inScope⟩, bears⟩
  unfold setProperty at given
  rw [isTyped] at given
  dsimp only at given
  rw [gives_bind] at given
  obtain ⟨column?, middle, same, given⟩ := given
  obtain ⟨rfl, rfl⟩ := gives_find?.mp same
  obtain ⟨first, found⟩ := Option.isSome_iff_exists.mp isFound
  rw [found] at given
  dsimp only at given
  rw [gives_bind] at given
  obtain ⟨value, after, reads, given⟩ := given
  obtain ⟨-, rfl⟩ := gives_pure.mp given
  have unclaimed := Header.find?_unclaimed indexed awaits.sized found
  exact (read_planned unclaimed reads).2.grows unclaimed (List.mem_singleton.mpr rfl)

omit indexed reliable in
theorem setMember_grows {target : Register} {property : Property} {steps : List Step}
    (isMember : (property.target.leaf?.filter fun leaf => !leaf.isAny) = none)
    (feeds : env.Feeds column (property.target.resolve env.bindings)
      (site.scope.member property.name env.settings.separator))
    (awaits : site.Awaits env column pass)
    (given : Gives (setProperty env recurse site target property) pass steps next) :
    pass.Grows next := by
  rcases setProperty_gives given with ⟨leaf, isTyped, -⟩ | ⟨-, found, planned, -⟩
  · cases isMember.symm.trans isTyped
  · have memberAwaits :
        (site.member env property.name property.target (some pass.nextRegister)).Awaits env column
          pass.advanced :=
      ⟨Register.known_existing rfl (Nat.lt_succ_self _), awaits.sized, awaits.isColumn,
        awaits.isFree⟩
    have grows := (diligent column rfl feeds memberAwaits planned).2
    exact grows.before Pass.Onward.advanced

theorem setProperties_grows {target : Register} {steps : List Step}
    (fed : env.FeedsProperty column type site.scope) (inScope : site.scope.contains column = true)
    (awaits : site.Awaits env column pass) (known : target < pass.nextRegister)
    (given : Gives (setProperties env recurse site type target) pass steps next) :
    pass.Grows next := by
  obtain ⟨plain, middle, sinks, planPlain, planSinks, -⟩ := setProperties_gives given
  have eachPlain {property : Property} {pass next : Pass} {steps : List Step}
      (sized : pass.claims.length = env.header.length) (known : target < pass.nextRegister)
      (given : Gives (setProperty env recurse site target property) pass steps next) :=
    setProperty_planned indexed reliable sized known given
  have eachSink {property : Property} {pass next : Pass} {steps : List Step}
      (sized : pass.claims.length = env.header.length) (known : target < pass.nextRegister)
      (given : Gives (setSink env recurse site target property) pass steps next) :=
    setSink_planned reliable sized known given
  have first := setEach_planned eachPlain awaits.sized known planPlain
  have stillKnown := Nat.lt_of_lt_of_le known first.onward.registers
  have second := setEach_planned eachSink (first.onward.length.trans awaits.sized) stillKnown
    planSinks
  refine awaits.grows_inTurn first.onward second.onward ?_
  cases fed with
  | leaf isProperty isTyped bears =>
      exact .inl (setEach_grows (setProperty env recurse site target) eachPlain isProperty
        (fun awaits given => setLeaf_grows indexed isTyped inScope bears awaits given) awaits known
        planPlain)
  | member isProperty isMember feeds =>
      exact .inl (setEach_grows (setProperty env recurse site target) eachPlain isProperty
        (fun awaits given => setMember_grows diligent isMember feeds awaits given) awaits known
        planPlain)
  | sink isProperty unnamed feeds =>
      refine .inr fun still => setEach_grows (setSink env recurse site target) eachSink isProperty
        (fun awaits given => ?_) still stillKnown planSinks
      obtain ⟨found, sink, -⟩ := setSink_gives given
      exact (planSink_grows (diligent column) awaits.sized
        ⟨awaits.isColumn, awaits.isFree, inScope⟩ unnamed feeds sink).2

/-! ## Instances -/

variable (inScope : site.scope.contains column = true) (awaits : site.Awaits env column pass)
include inScope awaits

theorem planInstance_assigned_grows {create : Program} {middle : Pass}
    (fed : env.FeedsProperty column type site.scope ∨ env.NeedsLeaf type factory)
    (created : Gives (planInstance env recurse site type factory) pass create middle)
    (onward : middle.Onward between) (known : start.result < between.nextRegister)
    (assigned : Gives (planAssigned env recurse site type start) between program next) :
    pass.Grows next := by
  have first := (planInstance_planned indexed reliable awaits.sized created).block.onward
  have sized := onward.length.trans (first.length.trans awaits.sized)
  obtain ⟨assigns, set, -⟩ := planAssigned_gives assigned
  have second := (setProperties_planned indexed reliable sized known set).onward
  rcases fed with fed | needs
  · refine awaits.grows_inTurn (first.trans onward) second (.inr fun still => ?_)
    exact setProperties_grows indexed reliable diligent fed inScope still known set
  · have grows := planInstance_grows indexed reliable diligent needs awaits created
    exact grows.behind (onward.trans second)

theorem planConcrete_grows
    (fed : env.FeedsProperty column type site.scope ∨ env.NeedsLeaf type factory)
    (given : Gives (planConcrete env recurse site type factory) pass program next) :
    pass.Grows next := by
  obtain ⟨start, middle, created, assigned⟩ := planConcrete_gives given
  have known := (planInstance_planned indexed reliable awaits.sized created).below
  exact planInstance_assigned_grows indexed reliable diligent inScope awaits fed created
    Pass.Onward.refl known assigned

theorem planSingle_grows {own : Option TypePolicy}
    (fed : env.FeedsProperty column (concreteOf declared own) site.scope ∨
      env.NeedsLeaf (concreteOf declared own) (own.bind TypePolicy.factory))
    (given : Gives (planSingle env recurse site declared own) pass program next) :
    pass.Grows next := by
  obtain ⟨create, middle, start, between, created, started, assigned⟩ := planSingle_gives given
  have creates := planInstance_planned indexed reliable awaits.sized created
  have starts := reuseOrCreate_planned awaits.known creates started
  have onward : middle.Onward between := by
    rcases reuseOrCreate_gives started with ⟨-, -, rfl⟩ | ⟨_, -, rfl, -⟩
    · exact Pass.Onward.refl
    · exact Pass.Onward.advanced
  exact planInstance_assigned_grows indexed reliable diligent inScope awaits fed created onward
    starts.below assigned

/-! ## Subtypes -/

omit awaits in
theorem planBranches_grows {begin : Pass} {rules : List SubtypeCase} {rule : SubtypeCase}
    {branches : List (Branch × Claims)} (isRule : rule ∈ rules)
    (fed : env.FeedsProperty column rule.target.objectType site.scope ∨
      env.NeedsLeaf rule.target.objectType rule.target.factory?)
    (awaits : site.Awaits env column begin) (later : begin.nextRegister ≤ pass.nextRegister)
    (given : Gives (planBranches env recurse site begin.claims rules) pass branches next) :
    ∃ outcome ∈ branches.map Prod.snd, ∃ index,
      begin.claims.isClaimed index = false ∧ outcome.isClaimed index = true := by
  induction rules generalizing pass branches with
  | nil => cases isRule
  | cons first rest ih =>
      obtain ⟨program, middle, others, planned, further, rfl⟩ := planBranches_cons given
      have start : site.Awaits env column { pass with claims := begin.claims } :=
        ⟨fun register isThere => Nat.lt_of_lt_of_le (awaits.known register isThere) later,
          awaits.sized, awaits.isColumn, awaits.isFree⟩
      rcases List.mem_cons.mp isRule with rfl | isRest
      · have grown := planConcrete_grows indexed reliable diligent inScope start fed planned
        exact ⟨middle.claims, by simp, grown⟩
      · have up :=
          (planConcrete_planned indexed reliable start.sized planned).block.onward.registers
        obtain ⟨outcome, member, grown⟩ := ih isRest (Nat.le_trans later up) further
        exact ⟨outcome, List.mem_cons_of_mem _ member, grown⟩

theorem planPolymorphic_grows {own : TypePolicy} {asked : ObjectType × Option Factory}
    (ruled : own.subtypes ≠ []) (isAsked : asked ∈ declared.asksFor (some own))
    (fed : env.FeedsProperty column asked.1 site.scope ∨ env.NeedsLeaf asked.1 asked.2)
    (given : Gives (planPolymorphic env recurse site declared own) pass program next) :
    pass.Grows next := by
  obtain ⟨branches, middle, fallback, between, branched, fell, way⟩ := planPolymorphic_gives given
  obtain ⟨up, branching⟩ :=
    planBranches_planned indexed reliable awaits.sized (Nat.le_refl _) branched
  have begin : site.Awaits env column { middle with claims := pass.claims } :=
    ⟨fun register isThere => Nat.lt_of_lt_of_le (awaits.known register isThere) up,
      awaits.sized, awaits.isColumn, awaits.isFree⟩
  have fallen := (planFallback_planned indexed reliable begin.sized fell).block.onward
  have sized : ∀ outcome ∈ branches.map Prod.snd ++ [between.claims],
      outcome.length = pass.claims.length := by
    intro outcome member
    rcases List.mem_append.mp member with member | member
    · obtain ⟨branch, isBranch, rfl⟩ := List.mem_map.mp member
      obtain ⟨reached, same, -, planned⟩ := branching branch isBranch
      rw [← same]
      exact planned.block.onward.length
    · rw [List.mem_singleton.mp member]
      exact fallen.length
  have grown : ∃ outcome ∈ branches.map Prod.snd ++ [between.claims], ∃ index,
      pass.claims.isClaimed index = false ∧ outcome.isClaimed index = true := by
    rcases (ObjectTypeOf.mem_asksFor_ruled ruled).mp isAsked with ⟨rule, isRule, rfl⟩ | otherwise
    · obtain ⟨outcome, member, grown⟩ := planBranches_grows indexed reliable diligent inScope
        isRule fed awaits (Nat.le_refl _) branched
      exact ⟨outcome, List.mem_append_left _ member, grown⟩
    · have grown := planConcrete_grows indexed reliable diligent inScope begin fed
        (planFallback_asked otherwise fell)
      exact ⟨between.claims, by simp, grown⟩
  have merged {outcomes : List Claims} (lengths : ∀ outcome ∈ outcomes,
      outcome.length = pass.claims.length) (more : ∀ outcome ∈ branches.map Prod.snd ++
        [between.claims], outcome ∈ outcomes) (same : next.claims =
      outcomes.foldl Claims.merge pass.claims) : pass.Grows next := by
    obtain ⟨outcome, member, index, free, claimed⟩ := grown
    refine ⟨index, free, ?_⟩
    rw [same, (Claims.foldl_merge lengths).2]
    exact .inr ⟨outcome, more outcome member, claimed⟩
  rcases way with ⟨-, -, rfl⟩ | ⟨existing, update, after, isThere, updated, -, rfl⟩
  · exact merged sized (fun _ member => member) rfl
  · obtain ⟨assigns, set, -⟩ := planAssigned_gives updated
    have known : existing < (Pass.mk pass.claims between.advanced.nextRegister).nextRegister :=
      Nat.lt_of_lt_of_le (begin.known existing isThere)
        (Nat.le_trans fallen.registers (Nat.le_succ _))
    have sizedUpdate : (Pass.mk pass.claims between.advanced.nextRegister).claims.length =
        env.header.length := awaits.sized
    have settled := (setProperties_planned indexed reliable sizedUpdate known set).onward.length
    refine merged (fun outcome member => ?_) (fun outcome member => List.mem_append_left _ member)
      rfl
    rcases List.mem_append.mp member with member | member
    · exact sized outcome member
    · rw [List.mem_singleton.mp member]
      exact settled

theorem planObject_grows (feeds : env.Feeds column site.target site.scope)
    (given : Gives (planObject env recurse site) pass (some program) next) : pass.Grows next := by
  rcases planObject_gives given with ⟨impossible, -⟩ | ⟨_, declared, -, isObject, way⟩
  · cases impossible
  rw [isObject] at feeds
  obtain ⟨asked, isAsked, fed⟩ := feeds.of_object
  rcases way with ⟨alone, single⟩ | ⟨own, found, ruled, polymorphic⟩
  · obtain rfl := (ObjectTypeOf.mem_asksFor_single alone).mp isAsked
    exact planSingle_grows indexed reliable diligent inScope awaits fed single
  · rw [found] at isAsked
    exact planPolymorphic_grows indexed reliable diligent inScope awaits ruled isAsked fed
      polymorphic

end Instances

/-! ## The standard strategy -/

theorem standardPlanners_grow (indexed : env.header.WellIndexed) (reliable : Reliable env recurse)
    (diligent : ∀ column, Diligent env column recurse) (isNested : site.isRoot = false)
    (feeds : env.Feeds column site.target site.scope) (awaits : site.Awaits env column pass)
    (planner : Planner) (member : planner ∈ standardPlanners env recurse)
    (given : Gives (planner site) pass (some program) next) : pass.Grows next := by
  simp only [standardPlanners, List.mem_cons, List.not_mem_nil, or_false] at member
  rcases member with rfl | rfl | rfl | rfl | rfl | rfl | rfl
  · rcases planUntypedMember_gives given with ⟨impossible, -⟩ | ⟨-, given⟩
    · cases impossible
    · exact planUntyped_grows indexed awaits isNested feeds.inScope given
  · exact planLeaf_grows indexed awaits isNested given
  · exact planTuple_grows reliable (diligent column) feeds awaits given
  · exact planArray_grows indexed reliable (diligent column) feeds awaits given
  · exact planDictionary_grows indexed reliable (diligent column) feeds awaits given
  · exact planSequence_grows indexed reliable (diligent column) feeds awaits given
  · exact planObject_grows indexed reliable diligent feeds.inScope awaits feeds given

/-- The induction is on the levels; what feeds a target may be as deep as these allow. -/
theorem standard_diligent (indexed : env.header.WellIndexed) (levels : Nat) :
    ∀ column, Diligent env column (standard env levels) := by
  induction levels with
  | zero => exact fun _ _ _ _ _ _ _ _ given => absurd given gives_throw
  | succ levels ih =>
      intro column site pass next result isNested feeds awaits given
      have plannable := feeds.isPlannable
      have answers : AnswersFrom pass (standard env (levels + 1) site) :=
        standard_answers (awaits.isPresent feeds.inScope) plannable.1 (.inl plannable.2)
      cases result with
      | none => exact absurd given (answers next)
      | some program =>
          rcases standard_gives given with ⟨impossible, -⟩ |
            ⟨below, same, planner, member, planned, found, given⟩
          · cases impossible
          obtain rfl := Nat.succ.inj same
          obtain rfl := Option.some.inj found
          exact ⟨⟨program, rfl⟩, standardPlanners_grow indexed
            (standard_reliable indexed levels) ih isNested feeds awaits planner member given⟩

end Planning

end Unflatten
