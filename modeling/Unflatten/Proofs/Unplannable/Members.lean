import Unflatten.Proofs.Unplannable.Accord
import Unflatten.Proofs.Unplannable.Roots

/-!
# Members without a plan

A property whose target no planner handles is left out in silence: the mapper to an object type does
what the mapper does to the type in which these properties cannot be written, and it is not made
where that one is not made. So they keep what a new or an existing instance has in them, whatever
columns there are.
-/

set_option autoImplicit false

namespace Unflatten

open Planning

/-! ## Properties that are left out -/

namespace PropertyOf

def isPlannable (bindings : Bindings) (property : Property) : Bool :=
  (property.target.resolve bindings).isPlannable

/-- The property, written only if its target is handled. -/
def withheld (bindings : Bindings) (property : Property) : Property :=
  { property with isWritable := property.isWritable && property.isPlannable bindings }

end PropertyOf

/-- The type in which no property can be written whose target is not handled. -/
def ObjectTypeOf.withheld (bindings : Bindings) (type : ObjectType) : ObjectType :=
  type.withProperties (type.properties.map (PropertyOf.withheld bindings))

theorem Target.leaf?_unplannable {bindings : Bindings} {target : Target}
    (unplannable : (target.resolve bindings).isPlannable = false) : target.leaf? = none := by
  cases target with
  | nullable inner =>
      have noLeaf := Option.isNone_iff_eq_none.mp (Option.isSome_eq_false_iff.mp unplannable)
      rw [leaf?, noLeaf]
  | reference ref => rfl
  | tuple slots => rfl
  | _ => cases unplannable

section Types

variable (bindings : Bindings) (type : ObjectType)

theorem PropertyOf.withheld_assignable (properties : List Property) :
    (properties.map (withheld bindings)).filter isAssignable =
      (properties.filter isAssignable).filter (isPlannable bindings) := by
  induction properties with
  | nil => rfl
  | cons property rest ih =>
      cases plannable : property.isPlannable bindings with
      | true =>
          have same : property.withheld bindings = property := by
            rw [withheld, plannable, Bool.and_true]
          rw [List.map_cons, same]
          cases assignable : property.isAssignable with
          | true => simp [assignable, plannable, ih]
          | false => simp [assignable, ih]
      | false =>
          have never : (property.withheld bindings).isAssignable = false := by
            simp [isAssignable, withheld, plannable]
          rw [List.map_cons, List.filter_cons_of_neg (by simp [never]), ih]
          cases assignable : property.isAssignable with
          | true => simp [assignable, plannable]
          | false => simp [assignable]

namespace ObjectTypeOf

theorem withheld_plain : plainProperties (type.withheld bindings) =
    (plainProperties type).filter (PropertyOf.isPlannable bindings) := by
  unfold plainProperties
  rw [withheld, withProperties, PropertyOf.withheld_assignable, List.filter_comm]

theorem withheld_sinks : sinkProperties (type.withheld bindings) =
    (sinkProperties type).filter (PropertyOf.isPlannable bindings) := by
  unfold sinkProperties
  rw [withheld, withProperties, PropertyOf.withheld_assignable, List.filter_comm]

theorem withheld_blank : (type.withheld bindings).blank = type.blank := by
  rw [blank, withheld, withProperties, List.foldl_map]
  rfl

/-- Instances are made as of the type itself: an argument is stored all the same. -/
theorem withheld_construct {settings : Settings} {constructor : Constructor}
    (usable : UsableConstructor settings type constructor)
    (builds : type.BuildsAs settings (type.withheld bindings)) (arguments : List Value) :
    constructor.construct (type.withheld bindings) arguments =
      constructor.construct type arguments := by
  have named (name : String) : ((type.withheld bindings).property? name).map PropertyOf.name =
      (type.property? name).map PropertyOf.name := by
    rw [property?, property?, withheld, withProperties, List.find?_map, Option.map_map]
    rfl
  exact ConstructorOf.construct_congr usable builds (withheld_blank bindings type) named rfl rfl
    arguments

end ObjectTypeOf

end Types

namespace Planning

/-! ## Instances -/

section Instances

variable {env : Environment} {recurse : Planner} {site : Site} {pass : Pass} {type : ObjectType}

/-- The same but for the type of the object that is constructed. -/
structure StartsAlike (pass : Pass) (start : Program) (next : Pass) (startOther : Program)
    (after : Pass) : Prop where
  passes : after = next
  result : startOther.result = start.result
  alike : ∀ row, Program.Alike row pass next start startOther

theorem planInstance_withheld (builds : type.BuildsAs env.settings (type.withheld env.bindings))
    (factory : Option Factory) :
    Accords (StartsAlike pass)
      (planInstance env recurse site (type.withheld env.bindings) factory)
      (planInstance env recurse site type factory) pass pass := by
  have named : (type.withheld env.bindings).name = type.name := rfl
  unfold planInstance
  dsimp only
  rw [named]
  cases factory.or ((env.settings.ofType? type.name).bind TypePolicy.factory) with
  | some maker =>
      refine (Accords.same _ pass).mono ?_
      rintro _ _ start next - - ⟨rfl, rfl⟩
      exact ⟨rfl, rfl, fun _ => .refl⟩
  | none =>
      have chooses : chooseConstructor env site (type.withheld env.bindings) =
          chooseConstructor env site type := rfl
      dsimp only
      rw [chooses]
      refine (Accords.same _ pass).bind ?_
      rintro _ _ constructor between - chosen ⟨rfl, rfl⟩
      have usable := ObjectTypeOf.chooseConstructor_usable (gives_chooseConstructor.mp chosen).1
      refine (Accords.same _ between).bind ?_
      rintro _ _ arguments middle - - ⟨rfl, rfl⟩
      refine .fresh ?_
      refine .pure ⟨rfl, rfl, ?_⟩
      intro row registers _
      have constructs := ObjectTypeOf.withheld_construct env.bindings type usable builds
      simp only [runTo, runSteps_append_bind, runSteps_single, runStep, constructs]

end Instances

/-! ## Properties -/

section Properties

variable {env : Environment} {recurse : Planner} {site : Site} {type : ObjectType}
variable {pass other middle next : Pass} {program start startOther : Program}
variable (indexed : env.header.WellIndexed) (reliable : Reliable env recurse)
variable (recursing : ∀ offset, Local env offset recurse) (isRoot : site.scope = .root)
variable (declining : ∀ site, site.target.isPlannable = false → recurse site = pure none)

include declining in
theorem setProperty_unplannable {property : Property} (target : Register) (pass : Pass)
    (unplannable : property.isPlannable env.bindings = false) :
    Gives (setProperty env recurse site target property) pass [] pass.advanced := by
  unfold setProperty
  rw [Target.leaf?_unplannable unplannable, Option.filter_none]
  dsimp only
  refine gives_bind.mpr ⟨_, _, gives_fresh.mpr ⟨rfl, rfl⟩, ?_⟩
  rw [declining (site.member env property.name property.target _) unplannable]
  exact gives_pure.mpr ⟨rfl, rfl⟩

include declining in
theorem setSink_unplannable {property : Property} (target : Register) (pass : Pass)
    (unplannable : property.isPlannable env.bindings = false) :
    Gives (setSink env recurse site target property) pass [] pass := by
  refine gives_bind.mpr ⟨none, pass, ?_, gives_pure.mpr ⟨rfl, rfl⟩⟩
  refine gives_bind.mpr ⟨_, _, gives_claims.mpr ⟨rfl, rfl⟩, ?_⟩
  dsimp only
  split
  · exact gives_pure.mpr ⟨rfl, rfl⟩
  · rw [declining ⟨property.target.resolve env.bindings, _, none, .member⟩ unplannable]
    exact gives_pure.mpr ⟨rfl, rfl⟩

include indexed reliable recursing isRoot declining

theorem setProperties_withheld {target : Register} {offset : Nat}
    (agree : pass.Agree env .root offset other) (known : target < pass.nextRegister) :
    Accords (SetsAlike env target pass other)
      (setProperties env recurse site (type.withheld env.bindings) target)
      (setProperties env recurse site type target) pass other := by
  have sets (property : Property) :
      Sets env target (setProperty env recurse site target property) :=
    fun sized known given => setProperty_planned indexed reliable sized known given
  have setsSink (property : Property) :
      Sets env target (setSink env recurse site target property) :=
    fun sized known given => setSink_planned reliable sized known given
  have plain {pass other : Pass} {offset : Nat} (agree : pass.Agree env .root offset other)
      (known : target < pass.nextRegister) :=
    setEach_accords sets
      (fun property _ _ _ agree known =>
        setProperty_accords indexed reliable recursing isRoot agree known property)
      (fun _ pass unplannable => ⟨1, setProperty_unplannable declining target pass unplannable⟩)
      agree known (plainProperties type)
  have sinks {pass other : Pass} {offset : Nat} (agree : pass.Agree env .root offset other)
      (known : target < pass.nextRegister) :=
    setEach_accords setsSink
      (fun property _ _ _ agree known =>
        setSink_accords indexed reliable recursing isRoot agree known property)
      (fun _ pass unplannable => ⟨0, setSink_unplannable declining target pass unplannable⟩)
      agree known (sinkProperties type)
  rw [← ObjectTypeOf.withheld_plain] at plain
  rw [← ObjectTypeOf.withheld_sinks] at sinks
  have setsEach {assign : Property → Planning (List Step)}
      (sets : ∀ property, Sets env target (assign property)) (properties : List Property) :
      Sets env target (setEach assign properties) :=
    fun sized known given => setEach_planned (sets _) sized known given
  exact append_accords (setsEach sets _) (setsEach sets _) (setsEach setsSink _)
    (setsEach setsSink _) agree known (plain agree known) sinks

/-! ## Values that are set -/

theorem planAssigned_withheld {existing : Option Register}
    (sized : middle.claims.length = env.header.length)
    (planned : Planned existing pass start middle)
    (plannedOther : Planned existing pass startOther middle)
    (starts : StartsAlike pass start middle startOther middle) :
    Accords (MakesAlike env existing pass pass)
      (planAssigned env recurse site (type.withheld env.bindings) start)
      (planAssigned env recurse site type startOther) middle middle := by
  have agree : middle.Agree env .root 0 middle := Pass.Agree.refl sized
  have below := planned.below
  unfold planAssigned
  rw [starts.result]
  refine (setProperties_withheld indexed reliable recursing isRoot declining agree below).bind ?_
  rintro steps next again after given givenOther ⟨agreeNext, alike⟩
  refine .pure ⟨agreeNext, fun row => ?_⟩
  obtain ⟨meaning, means⟩ := planned.exists_means row
  obtain ⟨change, changes, changesOther⟩ := alike row
  have behind := (setProperties_planned indexed reliable sized below given).onward.registers
  have behindOther := (setProperties_planned indexed reliable sized below
    givenOther).onward.registers
  rw [← starts.result] at changesOther
  have filled := Means.filled plannedOther ((starts.alike row).means means) behindOther changesOther
  rw [starts.result] at filled
  exact ⟨_, Means.filled planned means behind changes, filled⟩

theorem planUpdate_withheld {existing : Register} {offset : Nat}
    (agree : pass.Agree env .root offset other) (known : existing < pass.nextRegister) :
    Accords (MakesAlike env (some existing) pass other)
      (planAssigned env recurse site (type.withheld env.bindings) (Program.keep existing))
      (planAssigned env recurse site type (Program.keep existing)) pass other := by
  refine (setProperties_withheld indexed reliable recursing isRoot declining agree known).bind ?_
  rintro steps next again after - - ⟨agreeNext, alike⟩
  exact .pure ⟨agreeNext, alike⟩

variable (builds : type.BuildsAs env.settings (type.withheld env.bindings))
variable (sized : pass.claims.length = env.header.length)
include builds sized

theorem planConcrete_withheld (factory : Option Factory) :
    Accords (MakesAlike env none pass pass)
      (planConcrete env recurse site (type.withheld env.bindings) factory)
      (planConcrete env recurse site type factory) pass pass := by
  refine (planInstance_withheld builds factory).bind ?_
  rintro start _ startOther middle created createdOther ⟨rfl, result, alike⟩
  have planned := planInstance_planned indexed reliable sized created
  exact planAssigned_withheld indexed reliable recursing isRoot declining
    (planned.block.onward.length.trans sized) planned
    (planInstance_planned indexed reliable sized createdOther) ⟨rfl, result, alike⟩

theorem planFallback_withheld (own : TypePolicy) :
    Accords (MakesAlike env none pass pass)
      (planFallback env recurse site (type.withheld env.bindings) own)
      (planFallback env recurse site type own) pass pass := by
  have isAbstract : (type.withheld env.bindings).isAbstract = type.isAbstract := rfl
  unfold planFallback
  cases own.default with
  | some default =>
      refine (Accords.same _ pass).mono ?_
      rintro _ _ program next - given ⟨rfl, rfl⟩
      exact .refl sized (planConcrete_planned indexed reliable sized given)
  | none =>
      dsimp only
      rw [isAbstract]
      split
      · refine .fresh ?_
        exact .pure (.refl sized (Planned.fail (.noSubtype type.name)))
      · exact planConcrete_withheld indexed reliable recursing isRoot declining builds sized none

variable {existing : Register} (isThere : site.existing = some existing)
variable (known : existing < pass.nextRegister)
include isThere known

theorem planSingle_withheld (own : Option TypePolicy) :
    Accords (RunsAlike (some existing) pass pass)
      (planSingle env recurse site (type.withheld env.bindings) own)
      (planSingle env recurse site type own) pass pass := by
  have single (declared : ObjectType) : planSingle env recurse site declared own = (do
      let create ← planInstance env recurse site (concreteOf declared own)
        (own.bind TypePolicy.factory)
      let start ← reuseOrCreate site .object create
      planAssigned env recurse site (concreteOf declared own) start) := rfl
  have old := Register.known_existing isThere known
  have stands : concreteOf (type.withheld env.bindings) own = concreteOf type own ∨
      concreteOf type own = type ∧
        concreteOf (type.withheld env.bindings) own = type.withheld env.bindings :=
    concreteOf_permuted type _ own
  rcases stands with same | ⟨isType, isOther⟩
  · rw [single, same, ← single]
    refine (Accords.same _ pass).mono ?_
    rintro _ _ program next - given ⟨rfl, rfl⟩
    have planned := planSingle_planned indexed reliable sized old given
    rw [isThere] at planned
    exact (MakesAlike.refl sized planned).runs
  · rw [single, single, isType, isOther]
    refine (planInstance_withheld builds _).bind ?_
    rintro create _ createOther middle created createdOther ⟨rfl, -, creates⟩
    have planned := planInstance_planned indexed reliable sized created
    have plannedOther := planInstance_planned indexed reliable sized createdOther
    have started := reuse_given isThere create middle
    have startedOther := reuse_given isThere createOther middle
    have reused := reuseOrCreate_planned old planned started
    have reusedOther := reuseOrCreate_planned old plannedOther startedOther
    rw [isThere] at reused reusedOther
    have inside : middle.nextRegister < middle.advanced.nextRegister := Nat.lt_succ_self _
    refine .onward started startedOther ((planAssigned_withheld indexed reliable recursing isRoot
      declining (reused.block.onward.length.trans sized) reused reusedOther
      ⟨rfl, rfl, fun row => ?_⟩).mono fun _ _ _ _ _ _ alike => alike.runs)
    exact .reuse inside .refl
      ((creates row).between (Nat.le_refl _) (Nat.le_of_lt inside))

theorem planPolymorphic_withheld (own : TypePolicy) :
    Accords (RunsAlike (some existing) pass pass)
      (planPolymorphic env recurse site (type.withheld env.bindings) own)
      (planPolymorphic env recurse site type own) pass pass := by
  unfold planPolymorphic
  refine .claims ?_
  refine (Accords.same _ pass).bind ?_
  rintro _ _ branches middle - given ⟨rfl, rfl⟩
  obtain ⟨up, branching⟩ := planBranches_planned indexed reliable sized (Nat.le_refl _) given
  refine .setClaims ?_
  have sizedMiddle : ({ middle with claims := pass.claims } : Pass).claims.length =
      env.header.length := sized
  refine (planFallback_withheld indexed reliable recursing isRoot declining builds sizedMiddle
    own).bind ?_
  rintro fallback between fallbackOther after falls fallsOther ⟨⟨offset, agree⟩, fallsAlike⟩
  have onward : middle.nextRegister ≤ between.nextRegister :=
    (planFallback_planned indexed reliable sizedMiddle falls).block.onward.registers
  have onwardOther : middle.nextRegister ≤ after.nextRegister :=
    (planFallback_planned indexed reliable sizedMiddle fallsOther).block.onward.registers
  refine .claims ?_
  refine .fresh ?_
  simp only [isThere]
  refine .setClaims ?_
  have agreeUpdate : Pass.Agree env .root offset { between.advanced with claims := pass.claims }
      { after.advanced with claims := pass.claims } :=
    ⟨agree.advanced.registers, sized, sized, fun _ _ _ => rfl⟩
  have knownUpdate : existing < between.nextRegister + 1 := by lia
  refine (planUpdate_withheld indexed reliable recursing isRoot declining agreeUpdate
    knownUpdate).bind ?_
  rintro update next updateOther last updates updatesOther ⟨-, updatesAlike⟩
  have further : between.nextRegister + 1 ≤ next.nextRegister :=
    (climbs_planAssigned reliable.climbs).gives updates
  have furtherOther : after.nextRegister + 1 ≤ last.nextRegister :=
    (climbs_planAssigned reliable.climbs).gives updatesOther
  refine .claims ?_
  refine .fresh ?_
  refine .setClaims ?_
  refine .pure fun row => ?_
  have early : pass.nextRegister ≤ between.nextRegister + 1 := by lia
  have earlyOther : pass.nextRegister ≤ after.nextRegister + 1 := by lia
  obtain ⟨updated, updateMeans, updateMeansOther⟩ := updatesAlike row
  obtain ⟨created, selects, selectsOther⟩ :=
    fallsAlike.select branching up (Nat.le_refl _) onward onwardOther row
  exact ⟨_, .reuse (Nat.lt_succ_self next.nextRegister)
      (updateMeans.between early (Nat.le_succ next.nextRegister))
      (selects.later (Nat.le_succ_of_le further)),
    .reuse (Nat.lt_succ_self last.nextRegister)
      (updateMeansOther.between earlyOther (Nat.le_succ last.nextRegister))
      (selectsOther.later (Nat.le_succ_of_le furtherOther))⟩

end Properties

theorem Accords.plans {env : Environment} {left right : Planning Program} (climbs : Climbs left)
    (climbsOther : Climbs right)
    (accords : Accords (RunsAlike (some existingRegister) (Pass.start env) (Pass.start env)) left
      right (Pass.start env) (Pass.start env)) :
    Mirrors
      (fun plan other : Plan => ∀ row existing,
        (other.run row existing).toOption = (plan.run row existing).toOption)
      (Plan.ofOutcome (left (Pass.start env))) (Plan.ofOutcome (right (Pass.start env))) := by
  have onward := climbs (Pass.start env)
  have onwardOther := climbsOther (Pass.start env)
  unfold Accords at accords
  revert accords onward onwardOther
  generalize left (Pass.start env) = done
  generalize right (Pass.start env) = doneOther
  obtain ⟨outcome, next⟩ := done
  obtain ⟨outcomeOther, after⟩ := doneOther
  intro accords onward onwardOther
  cases accords with
  | error failure => exact .error failure
  | ok alike =>
      refine .ok fun row existing => ?_
      obtain ⟨meaning, means, meansOther⟩ := alike row
      have some : 0 < (Pass.start env).nextRegister := Nat.succ_pos _
      exact (Plan.run_means meansOther some onwardOther (Nat.le_max_left _ _) existing).trans
        (Plan.run_means means some onward (Nat.le_max_left _ _) existing).symm

end Planning

/-! ## Mappers -/

theorem Plan.ofTarget_withheld {env : Environment} (indexed : env.header.WellIndexed)
    {type : ObjectType} (builds : type.BuildsAs env.settings (type.withheld env.bindings)) :
    Mirrors
      (fun plan other : Plan => ∀ row existing,
        (other.run row existing).toOption = (plan.run row existing).toOption)
      (Plan.ofTarget .standard env (.object (type.withheld env.bindings)))
      (Plan.ofTarget .standard env (.object type)) := by
  have reliable : Reliable env (standard env deepestLevel) := standard_reliable indexed _
  have recursing (offset : Nat) : Local env offset (standard env deepestLevel) :=
    standard_local indexed _
  have declining (site : Site) (unplannable : site.target.isPlannable = false) :
      standard env deepestLevel site = pure none :=
    standard_unplannable unplannable _
  have climbs (site : Site) : Climbs (standard env deepestLevel site) := climbs_standard
  have sized : (Pass.start env).claims.length = env.header.length := Claims.length_none _
  have started : existingRegister < (Pass.start env).nextRegister := Nat.lt_succ_self _
  have isType : (Target.object type).resolve env.bindings = .object type := rfl
  have isObject : (Target.object (type.withheld env.bindings)).resolve env.bindings =
      .object (type.withheld env.bindings) := rfl
  have sameScope : (Site.atRoot env.bindings (.object (type.withheld env.bindings))).scope =
      (Site.atRoot env.bindings (.object type)).scope := rfl
  have sameExisting : (Site.atRoot env.bindings (.object (type.withheld env.bindings))).existing =
      (Site.atRoot env.bindings (.object type)).existing := rfl
  have named : (type.withheld env.bindings).name = type.name := rfl
  rw [Plan.ofTarget_object isType, Plan.ofTarget_object isObject, named]
  cases (env.settings.ofType? type.name).filter fun own => !own.subtypes.isEmpty with
  | some own =>
      dsimp only
      rw [planPolymorphic_scope sameScope sameExisting]
      exact Accords.plans (closed_planPolymorphic (climbs_closed env) climbs _ _)
        (closed_planPolymorphic (climbs_closed env) climbs _ _)
        (planPolymorphic_withheld indexed reliable recursing rfl declining builds sized rfl started
          own)
  | none =>
      dsimp only
      rw [planSingle_scope sameScope sameExisting]
      exact Accords.plans (closed_planSingle (climbs_closed env) climbs _ _)
        (closed_planSingle (climbs_closed env) climbs _ _)
        (planSingle_withheld indexed reliable recursing rfl declining builds sized rfl started _)

/-- A target that no planner handles is reported at the root and nowhere else: a mapper is refused
for its shape exactly if the target itself is not handled, and so never to an object type. A mapper
to an object type makes of every row, and of every value to update, what the mapper makes to the
type in which properties without a plan cannot be written, and fails to be made as that one does,
unless the body of a constructor looks at whether they can be written. -/
theorem Mapper.make_withheld (bindings : Bindings) (settings : Settings) (columns : List Column) :
    (∀ target name,
      Mapper.make .standard bindings target (Header.ofColumns columns) settings =
          .error (.noPlan name) ↔
        (target.resolve bindings).isPlannable = false ∧ target.typeName = name) ∧
    ∀ type : ObjectType, type.BuildsAs settings (type.withheld bindings) →
      Mirrors
        (fun mapper other => ∀ row existing,
          (other.update row existing).toOption = (mapper.update row existing).toOption)
        (Mapper.make .standard bindings (.object (type.withheld bindings))
          (Header.ofColumns columns) settings)
        (Mapper.make .standard bindings (.object type) (Header.ofColumns columns) settings) := by
  refine ⟨fun target name => ?_, fun type builds => ?_⟩
  · have noPlan : Plan.ofTarget .standard ⟨Header.ofColumns columns, settings, bindings⟩ target =
          .error (.noPlan name) ↔
        (target.resolve bindings).isPlannable = false ∧ target.typeName = name :=
      Plan.ofTarget_noPlan name
    rw [← noPlan, Mapper.make]
    cases Plan.ofTarget .standard ⟨Header.ofColumns columns, settings, bindings⟩ target with
    | ok plan => simp [Except.map]
    | error failure => simp [Except.map]
  · have plans : Mirrors _
        (Plan.ofTarget .standard ⟨Header.ofColumns columns, settings, bindings⟩
          (.object (type.withheld bindings)))
        (Plan.ofTarget .standard ⟨Header.ofColumns columns, settings, bindings⟩ (.object type)) :=
      Plan.ofTarget_withheld (Header.ofColumns_wellIndexed columns) builds
    unfold Mapper.make
    generalize Plan.ofTarget .standard ⟨Header.ofColumns columns, settings, bindings⟩
      (.object (type.withheld bindings)) = planned at plans
    generalize Plan.ofTarget .standard ⟨Header.ofColumns columns, settings, bindings⟩
      (.object type) = plannedOther at plans
    cases plans with
    | error failure => exact .error failure
    | ok runs => exact .ok runs

/-! ## Baskets

A property that no planner handles, with a column of its name. -/

namespace Baskets

def items : Property :=
  { name := "Items", target := .nullable (.list (.scalar (.int .int32))) }

def basket : ObjectType :=
  ObjectTypeOf.declare 1 "Basket" false [items] 2 []

def columns : List Column :=
  [Column.declare "items" (.int .int32)]

def row : Row :=
  ⟨columns, [.int .int32 (FixedInt.wrapping .int32 5)]⟩

def mapper? : Except Failure Mapper :=
  Mapper.make .standard [] (.object basket) (Header.ofColumns columns) {}

theorem mapped_null :
    (do let mapper ← mapper?; return ((← mapper.map row).field "Items").isNull) = .ok true := by
  decide +kernel

end Baskets

/-- The mapper is made all the same, and the items are null. -/
theorem Baskets.items_dropped :
    (Baskets.items ∈ Baskets.basket.properties ∧ Baskets.items.isAssignable = true ∧
        Baskets.items.isSink = false ∧ Baskets.items.isPlannable [] = false) ∧
      (∃ column ∈ Header.ofColumns Baskets.columns,
        (Scope.root.member Baskets.items.name "_").contains column = true) ∧
      ∃ mapper value, Baskets.mapper? = .ok mapper ∧ mapper.map Baskets.row = .ok value ∧
        (value.field "Items").isNull = true := by
  refine ⟨⟨List.mem_singleton.mpr rfl, rfl, rfl, rfl⟩, by decide +kernel, ?_⟩
  obtain ⟨mapper, made, mapped⟩ := Except.bind_eq_ok Baskets.mapped_null
  obtain ⟨value, ran, isNull⟩ := Except.bind_eq_ok mapped
  exact ⟨mapper, value, made, ran, Except.ok.inj isNull⟩

/-- The items are left out as if they could not be written. -/
theorem Baskets.items_withheld : ∃ withheld mapper,
    Mapper.make .standard [] (.object (Baskets.basket.withheld []))
      (Header.ofColumns Baskets.columns) {} = .ok withheld ∧
    Baskets.mapper? = .ok mapper ∧
    (mapper.update Baskets.row .null).toOption = (withheld.update Baskets.row .null).toOption := by
  have builds : Baskets.basket.BuildsAs {} (Baskets.basket.withheld []) :=
    fun _ member => absurd member List.not_mem_nil
  have alike := (Mapper.make_withheld [] {} Baskets.columns).2 Baskets.basket builds
  have made : Baskets.mapper?.isOk = true := by decide +kernel
  rw [Baskets.mapper?] at made ⊢
  generalize Mapper.make .standard [] (.object (Baskets.basket.withheld []))
    (Header.ofColumns Baskets.columns) {} = one at alike ⊢
  generalize Mapper.make .standard [] (.object Baskets.basket) (Header.ofColumns Baskets.columns)
    {} = other at alike made ⊢
  cases alike with
  | error failure => cases made
  | ok same => exact ⟨_, _, rfl, rfl, same Baskets.row .null⟩

end Unflatten
