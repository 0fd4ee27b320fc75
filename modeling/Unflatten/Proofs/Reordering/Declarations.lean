import Unflatten.Proofs.Dispatch.Mappers
import Unflatten.Proofs.Reordering.Properties
import Unflatten.Proofs.Rows.WholeRow

/-!
# Declarations in another order

An object type may list its properties in any order if their names can be told apart without regard
to the separator: a root target is planned from either declaration, or from neither, and both plans
map a row to the same object.
-/

set_option autoImplicit false

namespace Unflatten

open Planning

/-- The type with these properties in place of its own. -/
def ObjectTypeOf.withProperties (type : ObjectType) (properties : List Property) : ObjectType :=
  { type with properties }

/-- Names in canonical form that differ and are free of the separator, which is one character, at
most one sink, and constructors that store their arguments. -/
structure ObjectType.Orderless (settings : Settings) (type : ObjectType) : Prop where
  plain : ∃ separator, (foldName settings.separator).toList = [separator] ∧
    ∀ property ∈ type.properties, separator ∉ (foldName property.name).toList
  distinct : (type.properties.map fun property => foldName property.name).Nodup
  oneSink : (type.properties.filter PropertyOf.isSink).length ≤ 1
  stores : ∀ constructor, UsableConstructor settings type constructor → constructor.body = none

section Declarations

variable {settings : Settings} {type : ObjectType} {others : List Property}
variable (orderless : type.Orderless settings) (permuted : others.Perm type.properties)
include orderless

namespace ObjectType.Orderless

theorem apart : type.properties.Pairwise (PropertyOf.Apart settings.separator) := by
  obtain ⟨separator, isSeparator, plain⟩ := orderless.plain
  refine (List.pairwise_map.mp orderless.distinct).imp_of_mem fun isOne isOther differs => ?_
  refine ⟨?_, fun header => Scope.root_members_apart header isSeparator (plain _ isOne)
    (plain _ isOther) differs⟩
  cases alike : Text.equalIgnoringCase _ _ with
  | false => rfl
  | true => exact absurd (foldName_congr alike) differs

theorem distinguished : type.properties.Pairwise fun one other =>
    Text.equalIgnoringCase one.name other.name = false :=
  orderless.apart.imp fun apart => apart.names

include permuted

theorem permute : (type.withProperties others).Orderless settings := by
  obtain ⟨separator, isSeparator, plain⟩ := orderless.plain
  refine ⟨⟨separator, isSeparator, fun property member => plain property (permuted.subset member)⟩,
    ?_, ?_, orderless.stores⟩
  · exact (permuted.map _).nodup_iff.mpr orderless.distinct
  · exact (permuted.filter _).length_eq.trans_le orderless.oneSink

/-! ## Instances -/

theorem property? (name : String) :
    (type.withProperties others).property? name = type.property? name := by
  refine List.find?_eq_find?_of_perm permuted fun one isOne two isTwo => ?_
  obtain ⟨memberOne, alike⟩ := isOne
  obtain ⟨memberTwo, likewise⟩ := isTwo
  exact PropertyOf.eq_of_distinct orderless.distinguished (permuted.subset memberOne)
    (permuted.subset memberTwo)
    (Text.equalIgnoringCase_trans alike (Text.equalIgnoringCase_symm likewise))

theorem blank : (type.withProperties others).blank = type.blank := by
  refine List.Perm.foldl_eq' permuted (fun one isOne two isTwo object => ?_) _
  by_cases same : one = two
  · rw [same]
  · have differs : one.name ≠ two.name := by
      intro named
      refine same (PropertyOf.eq_of_distinct orderless.distinguished (permuted.subset isOne)
        (permuted.subset isTwo) ?_)
      rw [named]
      exact Text.equalIgnoringCase_refl _
    exact congrArg (Object.mk object.typeName) (Entries.insert_comm differs _ _ _)

theorem construct {constructor : Constructor} (usable : UsableConstructor settings type constructor)
    (arguments : List Value) :
    constructor.construct (type.withProperties others) arguments =
      constructor.construct type arguments := by
  simp only [ConstructorOf.construct, orderless.stores constructor usable,
    ConstructorOf.bindArguments, orderless.property? permuted, orderless.blank permuted]

/-! ## The properties that are set -/

theorem sinkProperties : sinkProperties (type.withProperties others) = sinkProperties type := by
  have sinks : (Planning.sinkProperties (type.withProperties others)).Perm
      (Planning.sinkProperties type) :=
    (permuted.filter _).filter _
  have atMostOne : (Planning.sinkProperties type).length ≤ 1 := by
    refine Nat.le_trans ?_ orderless.oneSink
    rw [Planning.sinkProperties, List.filter_comm]
    exact List.length_filter_le _ _
  generalize Planning.sinkProperties type = own at sinks atMostOne
  rcases own with _ | ⟨sink, _ | ⟨_, _⟩⟩
  · exact List.perm_nil.mp sinks
  · exact List.perm_singleton.mp sinks
  · simp at atMostOne

end ObjectType.Orderless

end Declarations

/-! ## Plans -/

/-- From the same pass the action plans an alike program and ends in the same pass. -/
def PlansAlike (row : Row) (pass next : Pass) (program : Program) (action : Planning Program) :
    Prop :=
  ∃ other, Gives action pass other next ∧ Program.Alike row pass next program other

theorem PlansAlike.same {row : Row} {pass next : Pass} {program : Program}
    {action : Planning Program} (given : Gives action pass program next) :
    PlansAlike row pass next program action :=
  ⟨program, given, .refl⟩

namespace Planning

theorem concreteOf_permuted (type : ObjectType) (others : List Property) (own : Option TypePolicy) :
    concreteOf (type.withProperties others) own = concreteOf type own ∨
      concreteOf type own = type ∧
        concreteOf (type.withProperties others) own = type.withProperties others := by
  unfold concreteOf
  split
  · rename_i default isDefault
    by_cases replaced : (type.isAbstract && (own.bind TypePolicy.factory).isNone) = true
    · rw [if_pos replaced]
      exact Or.inl (if_pos replaced)
    · rw [if_neg replaced]
      exact Or.inr ⟨rfl, if_neg replaced⟩
  · exact Or.inr ⟨rfl, rfl⟩

variable {env : Environment} {recurse : Planner} {site : Site} {row : Row}
variable {pass middle next : Pass} {program start : Program}
variable {type : ObjectType} {others : List Property} {factory : Option Factory}

/-- The branches, the fallback and the update start from the same claims each. -/
theorem planPolymorphic_updates {own : TypePolicy} {existing : Register}
    {branches : List (Branch × Claims)} {fallback update : Program} {between after : Pass}
    (isThere : site.existing = some existing)
    (branching : Gives (planBranches env recurse site pass.claims own.subtypes) pass branches
      middle)
    (falls : Gives (planFallback env recurse site type own) { middle with claims := pass.claims }
      fallback between)
    (updates : Gives (planAssigned env recurse site type (Program.keep existing))
      { between.advanced with claims := pass.claims } update after) :
    Gives (planPolymorphic env recurse site type own) pass
      (Program.single
        (.reuse existing .object update (selection branches fallback between.nextRegister)
          after.nextRegister)
        after.nextRegister)
      { after.advanced with
        claims := (branches.map Prod.snd ++ [between.claims] ++ [after.claims]).foldl Claims.merge
          pass.claims } := by
  unfold planPolymorphic
  refine gives_bind.mpr ⟨_, _, gives_claims.mpr ⟨rfl, rfl⟩, ?_⟩
  refine gives_bind.mpr ⟨branches, middle, branching, ?_⟩
  refine gives_bind.mpr ⟨(), _, gives_setClaims.mpr rfl, ?_⟩
  refine gives_bind.mpr ⟨fallback, between, falls, ?_⟩
  refine gives_bind.mpr ⟨_, _, gives_claims.mpr ⟨rfl, rfl⟩, ?_⟩
  refine gives_bind.mpr ⟨_, _, gives_fresh.mpr ⟨rfl, rfl⟩, ?_⟩
  simp only [isThere]
  refine gives_bind.mpr ⟨(), _, gives_setClaims.mpr rfl, ?_⟩
  refine gives_bind.mpr ⟨update, after, updates, ?_⟩
  refine gives_bind.mpr ⟨_, _, gives_claims.mpr ⟨rfl, rfl⟩, ?_⟩
  refine gives_bind.mpr ⟨_, _, gives_fresh.mpr ⟨rfl, rfl⟩, ?_⟩
  exact gives_bind.mpr ⟨(), _, gives_setClaims.mpr rfl, gives_pure.mpr ⟨rfl, rfl⟩⟩

variable (orderless : type.Orderless env.settings) (permuted : others.Perm type.properties)
include orderless permuted

theorem planInstance_permuted (row : Row)
    (given : Gives (planInstance env recurse site type factory) pass program next) :
    PlansAlike row pass next program
      (planInstance env recurse site (type.withProperties others) factory) := by
  rcases planInstance_gives given with ⟨maker, isMaker, rfl, rfl⟩ |
    ⟨noMaker, constructor, arguments, middle, chosen, planned, rfl, rfl⟩
  · refine PlansAlike.same ?_
    have isMaker : factory.or ((env.settings.ofType?
        (type.withProperties others).name).bind TypePolicy.factory) = some maker := isMaker
    simp only [planInstance, isMaker]
    exact gives_bind.mpr ⟨_, _, gives_fresh.mpr ⟨rfl, rfl⟩, gives_pure.mpr ⟨rfl, rfl⟩⟩
  · obtain ⟨rfl, unmade⟩ := Option.or_eq_none_iff.mp noMaker
    refine ⟨_, planInstance_constructs unmade chosen planned, fun registers _ => ?_⟩
    have constructs := orderless.construct permuted (ObjectTypeOf.chooseConstructor_usable chosen)
    simp only [runTo, runSteps_append_bind, runSteps_single, runStep, constructs]

variable (indexed : env.header.WellIndexed) (reliable : Reliable env recurse)
variable (recursing : ∀ offset, Local env offset recurse) (isRoot : site.scope = .root)
include indexed reliable recursing isRoot

theorem setProperties_permuted {target : Register} {steps : List Step} (row : Row)
    (sized : pass.claims.length = env.header.length) (known : target < pass.nextRegister)
    (given : Gives (setProperties env recurse site type target) pass steps next) :
    ∃ again, Gives (setProperties env recurse site (type.withProperties others) target) pass again
        next ∧
      Program.Alike row pass next ⟨steps, target⟩ ⟨again, target⟩ := by
  obtain ⟨plain, middle, sinks, planPlain, planSinks, rfl⟩ := setProperties_gives given
  have plainPermuted : (plainProperties type).Perm
      (plainProperties (type.withProperties others)) :=
    (permuted.symm.filter _).filter _
  have apart : (plainProperties type).Pairwise (PropertyOf.Apart env.settings.separator) :=
    (orderless.apart.filter _).filter _
  obtain ⟨again, replanned, alike⟩ := setEach_permuted indexed reliable recursing isRoot row
    plainPermuted apart sized known planPlain
  have each {property : Property} {pass next : Pass} {steps : List Step}
      (sized : pass.claims.length = env.header.length) (known : target < pass.nextRegister)
      (given : Gives (setProperty env recurse site target property) pass steps next) :=
    setProperty_planned indexed reliable sized known given
  have block := setEach_planned each sized known planPlain
  have later := setEach_planned
    (fun sized known given => setSink_planned reliable sized known given)
    (block.onward.length.trans sized) (Nat.lt_of_lt_of_le known block.onward.registers) planSinks
  rw [← orderless.sinkProperties permuted] at planSinks
  refine ⟨again ++ sinks, ?_,
    .append block (setEach_planned each sized known replanned) later alike .refl⟩
  exact gives_bind.mpr ⟨_, _, replanned,
    gives_bind.mpr ⟨_, _, planSinks, gives_pure.mpr ⟨rfl, rfl⟩⟩⟩

theorem planAssigned_permuted {existing : Option Register} {startOther : Program}
    (sized : middle.claims.length = env.header.length)
    (planned : Planned existing pass start middle)
    (plannedOther : Planned existing pass startOther middle)
    (sameResult : startOther.result = start.result)
    (starts : Program.Alike row pass middle start startOther)
    (given : Gives (planAssigned env recurse site type start) middle program next) :
    ∃ other, Gives (planAssigned env recurse site (type.withProperties others) startOther) middle
        other next ∧
      Program.Alike row pass next program other := by
  obtain ⟨steps, set, rfl⟩ := planAssigned_gives given
  obtain ⟨again, setAgain, fills⟩ := setProperties_permuted orderless permuted indexed reliable
    recursing isRoot row sized planned.below set
  have block := setProperties_planned indexed reliable sized planned.below set
  rw [← sameResult] at setAgain
  exact ⟨_, gives_bind.mpr ⟨_, _, setAgain, gives_pure.mpr ⟨rfl, rfl⟩⟩,
    .filled planned plannedOther sameResult block starts fills⟩

variable (sized : pass.claims.length = env.header.length)
include sized

theorem planConcrete_permuted (row : Row)
    (given : Gives (planConcrete env recurse site type factory) pass program next) :
    PlansAlike row pass next program
      (planConcrete env recurse site (type.withProperties others) factory) := by
  obtain ⟨start, middle, created, assigned⟩ := planConcrete_gives given
  obtain ⟨startOther, createdOther, starts⟩ :=
    planInstance_permuted orderless permuted row created
  have planned := planInstance_planned indexed reliable sized created
  have plannedOther := planInstance_planned indexed reliable sized createdOther
  have sameResult : startOther.result = start.result :=
    Nat.succ.inj ((planInstance_ends createdOther).symm.trans (planInstance_ends created))
  obtain ⟨other, assignedOther, alike⟩ := planAssigned_permuted orderless permuted indexed reliable
    recursing isRoot (planned.block.onward.length.trans sized) planned plannedOther sameResult
    starts assigned
  exact ⟨other, gives_bind.mpr ⟨_, _, createdOther, assignedOther⟩, alike⟩

variable {existing : Register} (isThere : site.existing = some existing)
variable (known : existing < pass.nextRegister)
include isThere known

theorem planSingle_permuted (row : Row) {own : Option TypePolicy}
    (given : Gives (planSingle env recurse site type own) pass program next) :
    PlansAlike row pass next program
      (planSingle env recurse site (type.withProperties others) own) := by
  obtain ⟨create, middle, start, between, created, started, assigned⟩ := planSingle_gives given
  rcases concreteOf_permuted type others own with same | ⟨isType, isOther⟩
  · refine PlansAlike.same (gives_bind.mpr ⟨create, middle, ?_, gives_bind.mpr ⟨start, between,
      started, ?_⟩⟩)
    · rw [← same] at created
      exact created
    · rw [← same] at assigned
      exact assigned
  · rw [isType] at created assigned
    obtain ⟨createOther, createdOther, creates⟩ :=
      planInstance_permuted orderless permuted row created
    have planned := planInstance_planned indexed reliable sized created
    have plannedOther := planInstance_planned indexed reliable sized createdOther
    have startedOther := reuse_given isThere createOther middle
    cases started.symm.trans (reuse_given isThere create middle)
    have old := Register.known_existing isThere known
    have reused := reuseOrCreate_planned old planned started
    have inside : middle.nextRegister < middle.advanced.nextRegister := Nat.lt_succ_self _
    have later := creates.between (Nat.le_refl _) (Nat.le_of_lt inside)
    obtain ⟨other, assignedOther, alike⟩ := planAssigned_permuted orderless permuted indexed
      reliable recursing isRoot (reused.block.onward.length.trans sized) reused
      (reuseOrCreate_planned old plannedOther startedOther) rfl (.reuse inside .refl later) assigned
    refine ⟨other, gives_bind.mpr ⟨createOther, middle, ?_,
      gives_bind.mpr ⟨_, _, startedOther, ?_⟩⟩, alike⟩
    · rw [← isOther] at createdOther
      exact createdOther
    · rw [← isOther] at assignedOther
      exact assignedOther

omit isThere known in
theorem planFallback_permuted (row : Row) {own : TypePolicy}
    (given : Gives (planFallback env recurse site type own) pass program next) :
    PlansAlike row pass next program
      (planFallback env recurse site (type.withProperties others) own) := by
  have isAbstract : (type.withProperties others).isAbstract = type.isAbstract := rfl
  rcases planFallback_gives given with ⟨default, isDefault, concrete⟩ |
    ⟨noDefault, abstract_, rfl, rfl⟩ | ⟨noDefault, notAbstract, concrete⟩
  · refine PlansAlike.same ?_
    rw [planFallback, isDefault]
    exact concrete
  · refine PlansAlike.same ?_
    rw [planFallback, noDefault]
    dsimp only
    rw [if_pos (isAbstract.trans abstract_)]
    exact gives_bind.mpr ⟨_, _, gives_fresh.mpr ⟨rfl, rfl⟩, gives_pure.mpr ⟨rfl, rfl⟩⟩
  · rw [planFallback, noDefault]
    dsimp only
    rw [if_neg (by rw [isAbstract, notAbstract]; exact Bool.false_ne_true)]
    exact planConcrete_permuted orderless permuted indexed reliable recursing isRoot sized row
      concrete

theorem planPolymorphic_permuted (row : Row) {own : TypePolicy}
    (given : Gives (planPolymorphic env recurse site type own) pass program next) :
    PlansAlike row pass next program
      (planPolymorphic env recurse site (type.withProperties others) own) := by
  obtain ⟨branches, middle, fallback, between, branching, falls, way⟩ :=
    planPolymorphic_gives given
  rcases way with ⟨isNew, -⟩ | ⟨found, update, after, isFound, updates, rfl, rfl⟩
  · cases isThere.symm.trans isNew
  · cases isThere.symm.trans isFound
    obtain ⟨upward, -⟩ := planBranches_each indexed reliable sized branching
    have sizedMiddle : ({ middle with claims := pass.claims } : Pass).claims.length =
        env.header.length := sized
    have onward := (planFallback_planned indexed reliable sizedMiddle falls).block.onward.registers
    obtain ⟨fallbackOther, fallsOther, fallsAlike⟩ := planFallback_permuted orderless permuted
      indexed reliable recursing isRoot sizedMiddle row falls
    obtain ⟨steps, set, rfl⟩ := planAssigned_gives updates
    have sizedUpdate : ({ between.advanced with claims := pass.claims } : Pass).claims.length =
        env.header.length := sized
    have knownUpdate : existing < between.nextRegister + 1 := by
      have upward : pass.nextRegister ≤ middle.nextRegister := upward
      have onward : middle.nextRegister ≤ between.nextRegister := onward
      lia
    obtain ⟨again, setAgain, updatesAlike⟩ := setProperties_permuted orderless permuted indexed
      reliable recursing isRoot row sizedUpdate knownUpdate set
    have further : between.nextRegister + 1 ≤ after.nextRegister :=
      (setProperties_planned indexed reliable sizedUpdate knownUpdate set).onward.registers
    have early : pass.nextRegister ≤ between.nextRegister + 1 :=
      Nat.le_trans upward (Nat.le_succ_of_le onward)
    refine ⟨_, ?_, .reuse (Nat.lt_succ_self after.nextRegister)
      (updatesAlike.between early (Nat.le_succ after.nextRegister))
      (.select (Nat.lt_succ_of_lt further)
        (fallsAlike.between upward (Nat.le_of_succ_le (Nat.le_succ_of_le further))))⟩
    exact planPolymorphic_updates isThere branching fallsOther
      (gives_bind.mpr ⟨again, after, setAgain, gives_pure.mpr ⟨rfl, rfl⟩⟩)

end Planning

/-! ## Mappers -/

theorem Plan.ofOutcome_ok {outcome : Except Failure Program × Pass} {plan : Plan}
    (made : Plan.ofOutcome outcome = .ok plan) :
    ∃ program next, outcome = (.ok program, next) ∧
      plan = Plan.ofProgram program next.nextRegister := by
  obtain ⟨result, next⟩ := outcome
  cases result with
  | error failure => cases made
  | ok program =>
      cases made
      exact ⟨program, next, rfl, rfl⟩

section Mappers

variable {env : Environment} {row : Row} {type : ObjectType} {others : List Property}
variable {program other : Program} {next : Pass} {plan : Plan}

theorem Program.Alike.run (planned : Planned (some existingRegister) (Pass.start env) program next)
    (alike : Program.Alike row (Pass.start env) next program other) (existing : Value) :
    ((Plan.ofProgram other next.nextRegister).run row existing).toOption =
      ((Plan.ofProgram program next.nextRegister).run row existing).toOption := by
  obtain ⟨meaning, means⟩ := planned.exists_means row
  have onward := planned.block.onward.registers
  have runs {made : Program}
      (means : Means row (some existingRegister) (Pass.start env) made next meaning) :
      ((Plan.ofProgram made next.nextRegister).run row existing).toOption = meaning existing :=
    Plan.run_means means (Nat.succ_pos _) onward (Nat.le_max_left _ _) existing
  rw [runs means, runs (alike.means means)]

theorem Plan.ofTarget_permuted (indexed : env.header.WellIndexed)
    (orderless : type.Orderless env.settings) (permuted : others.Perm type.properties) (row : Row)
    (made : Plan.ofTarget .standard env (.object type) = .ok plan) :
    ∃ again, Plan.ofTarget .standard env (.object (type.withProperties others)) = .ok again ∧
      ∀ existing, (again.run row existing).toOption = (plan.run row existing).toOption := by
  have reliable : Reliable env (standard env deepestLevel) := standard_reliable indexed _
  have recursing (offset : Nat) : Local env offset (standard env deepestLevel) :=
    standard_local indexed _
  have sized : (Pass.start env).claims.length = env.header.length := Claims.length_none _
  have started : existingRegister < (Pass.start env).nextRegister := Nat.lt_succ_self _
  have old : ∀ register, (Site.atRoot env.bindings (.object type)).existing = some register →
      register < (Pass.start env).nextRegister :=
    Register.known_existing rfl started
  have isObject : (Target.object (type.withProperties others)).resolve env.bindings =
      .object (type.withProperties others) := rfl
  have sameScope : (Site.atRoot env.bindings (.object (type.withProperties others))).scope =
      (Site.atRoot env.bindings (.object type)).scope := rfl
  have sameExisting : (Site.atRoot env.bindings (.object (type.withProperties others))).existing =
      (Site.atRoot env.bindings (.object type)).existing := rfl
  have named : (type.withProperties others).name = type.name := rfl
  rw [Plan.ofTarget_object rfl] at made
  rw [Plan.ofTarget_object isObject, named]
  cases chosen : (env.settings.ofType? type.name).filter fun own => !own.subtypes.isEmpty with
  | some own =>
      rw [chosen] at made
      obtain ⟨program, next, given, rfl⟩ := Plan.ofOutcome_ok made
      have planned := planPolymorphic_planned indexed reliable sized old given
      obtain ⟨other, givenOther, alike⟩ := planPolymorphic_permuted orderless permuted indexed
        reliable recursing rfl sized rfl started row given
      refine ⟨Plan.ofProgram other next.nextRegister, ?_, alike.run planned⟩
      dsimp only
      rw [planPolymorphic_scope sameScope sameExisting, givenOther]
      rfl
  | none =>
      rw [chosen] at made
      obtain ⟨program, next, given, rfl⟩ := Plan.ofOutcome_ok made
      have planned := planSingle_planned indexed reliable sized old given
      obtain ⟨other, givenOther, alike⟩ := planSingle_permuted orderless permuted indexed
        reliable recursing rfl sized rfl started row given
      refine ⟨Plan.ofProgram other next.nextRegister, ?_, alike.run planned⟩
      dsimp only
      rw [planSingle_scope sameScope sameExisting, givenOther]
      rfl

/-- The order in which an object type lists its properties does not matter: a row is mapped to the
same object, or to none. -/
theorem Mapper.outcome_permuted {bindings : Bindings} {settings : Settings}
    {columns : List Column} (orderless : type.Orderless settings)
    (permuted : others.Perm type.properties) (row : Row) :
    (Mapper.outcome bindings settings columns (.object (type.withProperties others)) row).toOption =
      (Mapper.outcome bindings settings columns (.object type) row).toOption := by
  have forward {one : ObjectType} {listed : List Property} {value : Value}
      (orderless : one.Orderless settings) (permuted : listed.Perm one.properties)
      (given : Mapper.outcome bindings settings columns (.object one) row = .ok value) :
      Mapper.outcome bindings settings columns (.object (one.withProperties listed)) row =
        .ok value := by
    obtain ⟨mapper, isMapper, ran⟩ := Except.bind_eq_ok given
    obtain ⟨plan, made, rfl⟩ := Except.map_eq_ok isMapper
    have indexed := Header.ofColumns_wellIndexed columns
    obtain ⟨again, replanned, runs⟩ := @Plan.ofTarget_permuted
      ⟨Header.ofColumns columns, settings, bindings⟩ _ _ _ indexed orderless permuted row made
    have ran : plan.run row .null = .ok value := ran
    have ranAgain := (runs .null).trans (Except.ok_iff_toOption.mp ran)
    rw [Mapper.outcome, Mapper.make, replanned]
    exact Except.ok_iff_toOption.mpr ranAgain
  cases here : Mapper.outcome bindings settings columns (.object type) row with
  | ok value => rw [forward orderless permuted here]
  | error failure =>
      cases there : Mapper.outcome bindings settings columns
          (.object (type.withProperties others)) row with
      | error _ => rfl
      | ok value =>
          have back := forward (orderless.permute permuted) permuted.symm there
          cases here.symm.trans back

end Mappers

/-! ## Crates

Members of every kind, one of which takes what has no name. -/

namespace Crates

def address : ObjectType :=
  ObjectTypeOf.declare 1 "Address" false
    [{ name := "Town", target := .scalar .string }, { name := "Code", target := .any }] 2
    [{ ident := 3, owner := "Address",
       parameters := [{ name := "town", target := .scalar .string }] }]

def crate : ObjectType :=
  ObjectTypeOf.declare 4 "Crate" false
    [{ name := "Label", target := .scalar .string }, { name := "To", target := .object address },
      { name := "Marks", target := .list (.scalar .string) },
      { name := "Notes", target := .map (.scalar .string) },
      { name := "Rest", target := .any, isSink := true },
      { name := "Size", target := .tuple [.scalar (.int .int32), .scalar (.int .int32)] }] 5 []

def columns : List Column :=
  [Column.declare "to" .string, Column.declare "to_town" .string,
    Column.declare "size" (.int .int32), Column.declare "marks_a" .string,
    Column.declare "" .string, Column.declare "size_" (.int .int32),
    Column.declare "label" .string, Column.declare "notes_by" .string]

def row : Row :=
  ⟨columns, [.string "Ada", .string "Ulm", .int .int32 (FixedInt.zero .int32), .string "fragile",
    .string "wet", .int .int32 (FixedInt.zero .int32), .string "box", .string "Bo"]⟩

theorem crate_orderless : crate.Orderless {} := by
  refine ⟨⟨'_', by decide +kernel, by decide +kernel⟩, by decide +kernel, by decide +kernel, ?_⟩
  rintro constructor (member | ⟨own, configured, -⟩)
  · have only : crate.constructors = [⟨5, "Crate", true, false, [], none⟩] := rfl
    rw [only, List.mem_singleton] at member
    rw [member]
  · cases configured

end Crates

theorem Crates.mapped_alike : ∃ value,
    Mapper.outcome [] {} Crates.columns (.object Crates.crate) Crates.row = .ok value ∧
      Mapper.outcome [] {} Crates.columns
        (.object (Crates.crate.withProperties Crates.crate.properties.reverse))
        Crates.row = .ok value := by
  have mapped : (Mapper.outcome [] {} Crates.columns (.object Crates.crate)
      Crates.row).isOk = true := by
    decide +kernel
  obtain ⟨value, isValue⟩ := Except.of_isOk mapped
  refine ⟨value, isValue, Except.ok_iff_toOption.mpr ?_⟩
  rw [Mapper.outcome_permuted Crates.crate_orderless (List.reverse_perm _), isValue]
  rfl

end Unflatten
