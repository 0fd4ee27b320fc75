import Unflatten.Proofs.Keys.Objects
import Unflatten.Proofs.References.Containers

/-!
# Object types that are counterparts

Counterparts of object types have the same properties and constructors as far as names and columns
go, so the same constructor is chosen and the same columns are read. The types that the settings put
in place of a type are the same for both.
-/

set_option autoImplicit false

namespace Unflatten

/-! ## Equivalent branches -/

structure Branch.Equivalent (branch another : Branch) : Prop where
  accepts : another.accepts = branch.accepts
  program : Program.Equivalent branch.program another.program

theorem Branch.Equivalent.branchSpan {branches others : List Branch}
    (each : List.Forall₂ Branch.Equivalent branches others) :
    branchSpan others = branchSpan branches := by
  induction each with
  | nil => rfl
  | @cons branch another rest others first _ ih =>
      obtain ⟨accepts, label, program⟩ := branch
      obtain ⟨acceptsAgain, labelAgain, programAgain⟩ := another
      rw [Unflatten.branchSpan, Unflatten.branchSpan, ih, (first.program.repeats ⟨[], []⟩).span]

theorem Branch.Equivalent.runBranches {branches others : List Branch}
    (each : List.Forall₂ Branch.Equivalent branches others) (row : Row) (registers : Registers)
    (into : Register) :
    runBranches row registers others into = runBranches row registers branches into := by
  induction each with
  | nil => rfl
  | @cons branch another rest others first _ ih =>
      obtain ⟨accepts, label, program⟩ := branch
      obtain ⟨acceptsAgain, labelAgain, programAgain⟩ := another
      obtain ⟨same, equivalent⟩ := first
      dsimp only at same
      rw [Unflatten.runBranches, Unflatten.runBranches, ih, same,
        (equivalent.repeats row).into registers into]

theorem Program.Equivalent.select {branches others : List Branch} {fallback another : Program}
    (into : Register) (each : List.Forall₂ Branch.Equivalent branches others)
    (same : Equivalent fallback another) :
    Equivalent (Program.single (.select branches fallback into) into)
      (Program.single (.select others another into) into) := by
  refine ⟨rfl, StepsEquivalent.single ?_ fun row registers => ?_⟩
  · rw [Step.span, Step.span, Branch.Equivalent.branchSpan each, (same.repeats ⟨[], []⟩).span]
  · rw [runStep, runStep, Branch.Equivalent.runBranches each,
      (same.repeats row).into registers into]

theorem PropertyOf.Counterpart.filter {related : Target → Target → Prop}
    {properties others : List Property} (accepts : Property → Bool)
    (each : List.Forall₂ (PropertyOf.Counterpart related) properties others)
    (common : ∀ property other, PropertyOf.Counterpart related property other →
      accepts other = accepts property) :
    List.Forall₂ (PropertyOf.Counterpart related) (properties.filter accepts)
      (others.filter accepts) :=
  List.rel_filter (fun {property other} same => by simp [common property other same]) each

namespace Planning

variable {related : Target → Target → Prop} {env : Environment} {later : Bindings}
variable {recurse again : Planner} {site : Site} {type another : ObjectType}

section Objects

variable (unfolds : Unfolds related env.settings env.bindings later)
variable (recursing : Follows env.settings related recurse again)
variable (place : Target)

/-! ## Constructor arguments -/

include unfolds recursing in
theorem planSink_follows {target other : Target} (same : related target other) :
    Parallel (Option.Rel Program.Equivalent) (planSink env recurse site target)
      (planSink (env.rebound later) again (site.toward place) other) := by
  refine Parallel.bindSame (Parallel.refl claims) fun claimed => ?_
  refine Parallel.branch (Parallel.pure .none) ?_
  exact recursing ⟨_, _, none, .member⟩ (other.resolve later) (unfolds.step target other same)

include unfolds recursing in
theorem planNamedArgument_follows {parameter other : Parameter}
    (same : ParameterOf.Counterpart related parameter other) :
    Parallel (Option.Rel Program.Equivalent) (planNamedArgument env recurse site parameter)
      (planNamedArgument (env.rebound later) again (site.toward place) other) := by
  unfold planNamedArgument
  rw [same.name, unfolds.leaf? same.target]
  refine Parallel.bindSame (Parallel.refl (find? env site.scope _)) fun column? => ?_
  cases parameter.target.leaf? with
  | some leaf =>
      cases column? with
      | some column => exact Parallel.planned (Parallel.program (read env column leaf))
      | none => exact Parallel.pure .none
  | none =>
      refine Parallel.bindSame (Parallel.refl (hasMember env site.scope _)) fun found => ?_
      refine Parallel.branch ?_ (Parallel.pure .none)
      exact recursing (site.member env parameter.name parameter.target none) _
        (unfolds.step parameter.target other.target same.target)

include unfolds recursing in
theorem planArgument_follows {parameter other : Parameter}
    (same : ParameterOf.Counterpart related parameter other) :
    Parallel Program.Equivalent (planArgument env recurse site parameter)
      (planArgument (env.rebound later) again (site.toward place) other) := by
  unfold planArgument
  rw [same.isSink, unfolds.defaultValue same.target]
  refine Parallel.bind (planNamedArgument_follows unfolds recursing place same)
    fun found foundAgain items => ?_
  cases items with
  | some item => exact Parallel.pure item
  | none =>
      dsimp only
      refine Parallel.branch ?_ (Parallel.program _)
      refine Parallel.bind (planSink_follows unfolds recursing place same.target)
        fun sink? sinkAgain? sinks => ?_
      cases sinks with
      | some item => exact Parallel.pure item
      | none => exact Parallel.program _

include unfolds recursing in
theorem planArguments_follows {parameters others : List Parameter}
    (same : List.Forall₂ (ParameterOf.Counterpart related) parameters others) :
    Parallel (List.Forall₂ Program.Equivalent) (planArguments env recurse site parameters)
      (planArguments (env.rebound later) again (site.toward place) others) := by
  induction same with
  | nil => exact Parallel.pure .nil
  | cons first _ ih =>
      refine Parallel.bind (planArgument_follows unfolds recursing place first)
        fun item itemAgain item => ?_
      exact Parallel.bind ih fun _ _ items => Parallel.pure (.cons item items)

variable (same : ObjectTypeOf.Counterpart related env.settings type another)
include same

include unfolds in
theorem chooseConstructor_follows :
    Parallel
      (fun constructor again => ConstructorOf.Counterpart related constructor again ∧
        UsableConstructor env.settings type constructor)
      (chooseConstructor env site type)
      (chooseConstructor (env.rebound later) (site.toward place) another) := by
  refine Parallel.bindSame (Parallel.refl (view env site.scope)) fun view => ?_
  dsimp only [Environment.rebound]
  rw [same.name, ObjectTypeOf.chooseConstructor, ObjectTypeOf.chooseConstructor]
  cases found : (env.settings.ofType? type.name).bind TypePolicy.preferred with
  | some preferred =>
      obtain ⟨own, configured, isPreferred⟩ := Option.bind_eq_some_iff.mp found
      have objection : preferred.objection? another = preferred.objection? type := by
        rw [ConstructorOf.objection?, ConstructorOf.objection?, same.name]
      dsimp only
      rw [objection]
      cases preferred.objection? type with
      | some objection => exact Parallel.throw _ _
      | none =>
          exact Parallel.pure ⟨ConstructorOf.Counterpart.refl unfolds.refl preferred,
            Or.inr ⟨own, configured, isPreferred⟩⟩
  | none =>
      dsimp only
      rw [same.isAbstract]
      cases type.isAbstract with
      | true => exact Parallel.throw _ _
      | false =>
          have best := unfolds.best? view same.constructors
          cases isBest : view.best? env.settings type.constructors with
          | none =>
              rw [isBest] at best
              generalize view.best? env.settings another.constructors = foundAgain at best ⊢
              cases best
              exact Parallel.throw _ _
          | some chosen =>
              rw [isBest] at best
              generalize view.best? env.settings another.constructors = foundAgain at best ⊢
              cases best with
              | some both => exact Parallel.pure ⟨both.2, Or.inl (View.best?_mem isBest)⟩

include unfolds recursing in
theorem planInstance_follows (factory : Option Factory) :
    Parallel Program.Equivalent (planInstance env recurse site type factory)
      (planInstance (env.rebound later) again (site.toward place) another factory) := by
  unfold planInstance
  dsimp only [Environment.rebound]
  rw [same.name]
  cases factory.or ((env.settings.ofType? type.name).bind TypePolicy.factory) with
  | some maker => exact Parallel.program _
  | none =>
      refine Parallel.bind (chooseConstructor_follows unfolds place same)
        fun constructor constructorAgain chosen => ?_
      obtain ⟨chosen, usable⟩ := chosen
      refine Parallel.bind (planArguments_follows unfolds recursing place chosen.parameters)
        fun arguments argumentsAgain each => ?_
      obtain ⟨steps, results⟩ := Program.Equivalent.flatMap each
      refine Parallel.bindSame (Parallel.refl fresh) fun into => Parallel.pure ⟨rfl, ?_⟩
      rw [results]
      refine steps.append (StepsEquivalent.single rfl fun row registers => ?_)
      rw [runStep, runStep, unfolds.construct same chosen usable]

/-! ## Properties -/

omit same

theorem setSteps_follows (target : Register) (field : String) {value valueAgain : Option Program}
    (same : Option.Rel Program.Equivalent value valueAgain) :
    StepsEquivalent (setSteps target field value) (setSteps target field valueAgain) := by
  cases same with
  | none => exact StepsEquivalent.refl []
  | some item =>
      refine item.steps.append ?_
      rw [item.result]
      exact StepsEquivalent.refl _

include unfolds recursing in
theorem setProperty_follows (target : Register) {property other : Property}
    (same : PropertyOf.Counterpart related property other) :
    Parallel StepsEquivalent (setProperty env recurse site target property)
      (setProperty (env.rebound later) again (site.toward place) target other) := by
  unfold setProperty
  rw [unfolds.leaf? same.target, same.name]
  cases property.target.leaf?.filter fun leaf => !leaf.isAny with
  | some leaf =>
      refine Parallel.bindSame (Parallel.refl (find? env site.scope _)) fun column? => ?_
      cases column? with
      | some column => exact Parallel.steps _
      | none => exact Parallel.steps _
  | none =>
      refine Parallel.bindSame (Parallel.refl fresh) fun existing => ?_
      refine Parallel.bind (recursing
        (site.member env property.name property.target (some existing)) _
        (unfolds.step property.target other.target same.target)) fun found foundAgain items => ?_
      cases items with
      | none => exact Parallel.steps _
      | some item =>
          exact Parallel.pure ((StepsEquivalent.refl _).cons
            (setSteps_follows target property.name (.some item)))

include unfolds recursing in
theorem setSink_follows (target : Register) {property other : Property}
    (same : PropertyOf.Counterpart related property other) :
    Parallel StepsEquivalent (setSink env recurse site target property)
      (setSink (env.rebound later) again (site.toward place) target other) := by
  unfold setSink
  rw [same.name]
  exact Parallel.bind (planSink_follows unfolds recursing place same.target)
    fun _ _ items => Parallel.pure (setSteps_follows target property.name items)

omit place in
theorem setEach_follows {assign reassign : Property → Planning (List Step)}
    {properties others : List Property}
    (same : List.Forall₂ (PropertyOf.Counterpart related) properties others)
    (each : ∀ property other, PropertyOf.Counterpart related property other →
      Parallel StepsEquivalent (assign property) (reassign other)) :
    Parallel StepsEquivalent (setEach assign properties) (setEach reassign others) := by
  induction same with
  | nil => exact Parallel.pure (StepsEquivalent.refl [])
  | cons first _ ih =>
      refine Parallel.bind (each _ _ first) fun steps stepsAgain steps => ?_
      exact Parallel.bind ih fun _ _ others => Parallel.pure (steps.append others)

include unfolds recursing in
theorem setProperties_follows (target : Register)
    (same : ObjectTypeOf.Counterpart related env.settings type another) :
    Parallel StepsEquivalent (setProperties env recurse site type target)
      (setProperties (env.rebound later) again (site.toward place) another target) := by
  have assignable := PropertyOf.Counterpart.filter PropertyOf.isAssignable same.properties
    fun property other same => by
      simp only [PropertyOf.isAssignable, same.isPublic, same.isReadable, same.isWritable]
  have plain := PropertyOf.Counterpart.filter (fun property => !property.isSink) assignable
    fun property other same => by rw [same.isSink]
  have sinks := PropertyOf.Counterpart.filter PropertyOf.isSink assignable
    fun property other same => same.isSink
  refine Parallel.bind (setEach_follows plain fun property other same =>
    setProperty_follows unfolds recursing place target same) fun first firstAgain steps => ?_
  exact Parallel.bind (setEach_follows sinks fun property other same =>
    setSink_follows unfolds recursing place target same) fun _ _ others =>
      Parallel.pure (steps.append others)

/-! ## Instances -/

include unfolds recursing in
theorem planAssigned_follows {start startAgain : Program}
    (same : ObjectTypeOf.Counterpart related env.settings type another)
    (starts : Program.Equivalent start startAgain) :
    Parallel Program.Equivalent (planAssigned env recurse site type start)
      (planAssigned (env.rebound later) again (site.toward place) another startAgain) := by
  unfold planAssigned
  rw [starts.result]
  exact Parallel.bind (setProperties_follows unfolds recursing place start.result same)
    fun _ _ steps => Parallel.pure ⟨rfl, starts.steps.append steps⟩

include unfolds recursing in
theorem planConcrete_follows (factory : Option Factory)
    (same : ObjectTypeOf.Counterpart related env.settings type another) :
    Parallel Program.Equivalent (planConcrete env recurse site type factory)
      (planConcrete (env.rebound later) again (site.toward place) another factory) :=
  Parallel.bind (planInstance_follows unfolds recursing place same factory)
    fun _ _ starts => planAssigned_follows unfolds recursing place same starts

include unfolds recursing in
theorem planReused_follows (factory : Option Factory)
    (same : ObjectTypeOf.Counterpart related env.settings type another) :
    Parallel Program.Equivalent (planReused env recurse site type factory)
      (planReused (env.rebound later) again (site.toward place) another factory) := by
  refine Parallel.bind (planInstance_follows unfolds recursing place same factory)
    fun _ _ creates => ?_
  exact Parallel.bind (reuseOrCreate_follows place creates) fun _ _ starts =>
    planAssigned_follows unfolds recursing place same starts

include unfolds recursing in
theorem planSingle_follows (own : Option TypePolicy)
    (same : ObjectTypeOf.Counterpart related env.settings type another) :
    Parallel Program.Equivalent (planSingle env recurse site type own)
      (planSingle (env.rebound later) again (site.toward place) another own) := by
  unfold planSingle
  dsimp only
  rw [same.isAbstract]
  cases own.bind TypePolicy.default with
  | none => exact planReused_follows unfolds recursing place _ same
  | some concrete =>
      dsimp only
      by_cases stands : (type.isAbstract && (own.bind TypePolicy.factory).isNone) = true
      · simp only [if_pos stands]
        exact planReused_follows unfolds recursing place _
          (ObjectTypeOf.Counterpart.refl unfolds.refl concrete)
      · simp only [if_neg stands]
        exact planReused_follows unfolds recursing place _ same

include unfolds recursing in
theorem planBranches_follows (start : Claims) (rules : List SubtypeCase) :
    Parallel (List.Forall₂ fun one other => Branch.Equivalent one.1 other.1 ∧ other.2 = one.2)
      (planBranches env recurse site start rules)
      (planBranches (env.rebound later) again (site.toward place) start rules) := by
  induction rules with
  | nil => exact Parallel.pure .nil
  | cons rule rest ih =>
      refine Parallel.bindSame (Parallel.refl (setClaims start)) fun _ => ?_
      refine Parallel.bind (planConcrete_follows unfolds recursing place rule.target.factory?
        (ObjectTypeOf.Counterpart.refl unfolds.refl rule.target.objectType))
        fun program programAgain equivalent => ?_
      refine Parallel.bindSame (Parallel.refl claims) fun claimed => ?_
      exact Parallel.bind ih fun _ _ others =>
        Parallel.pure (.cons ⟨⟨rfl, equivalent⟩, rfl⟩ others)

include unfolds recursing in
theorem planFallback_follows (own : TypePolicy)
    (same : ObjectTypeOf.Counterpart related env.settings type another) :
    Parallel Program.Equivalent (planFallback env recurse site type own)
      (planFallback (env.rebound later) again (site.toward place) another own) := by
  unfold planFallback
  rw [same.isAbstract, same.name]
  cases own.default with
  | some concrete =>
      exact planConcrete_follows unfolds recursing place none
        (ObjectTypeOf.Counterpart.refl unfolds.refl concrete)
  | none =>
      exact Parallel.branch (Parallel.program _)
        (planConcrete_follows unfolds recursing place none same)

include unfolds recursing in
theorem planPolymorphic_follows (own : TypePolicy)
    (same : ObjectTypeOf.Counterpart related env.settings type another) :
    Parallel Program.Equivalent (planPolymorphic env recurse site type own)
      (planPolymorphic (env.rebound later) again (site.toward place) another own) := by
  refine Parallel.bindSame (Parallel.refl claims) fun start => ?_
  refine Parallel.bind (planBranches_follows unfolds recursing place start own.subtypes)
    fun branches branchesAgain each => ?_
  have alternatives : List.Forall₂ Branch.Equivalent (branches.map Prod.fst)
      (branchesAgain.map Prod.fst) :=
    List.forall₂_map_left_iff.mpr (List.forall₂_map_right_iff.mpr (each.imp fun _ _ both => both.1))
  have outcomes : branchesAgain.map Prod.snd = branches.map Prod.snd :=
    map_eq_of_forall₂ each fun _ _ both => both.2
  refine Parallel.bindSame (Parallel.refl (setClaims start)) fun _ => ?_
  refine Parallel.bind (planFallback_follows unfolds recursing place own same)
    fun fallback fallbackAgain falls => ?_
  refine Parallel.bindSame (Parallel.refl claims) fun fallbackClaims => ?_
  refine Parallel.bindSame (Parallel.refl fresh) fun into => ?_
  have select := Program.Equivalent.select into alternatives falls
  dsimp only [Site.toward_existing]
  rw [outcomes]
  cases site.existing with
  | none => exact Parallel.bindSame (Parallel.refl _) fun _ => Parallel.pure select
  | some existing =>
      refine Parallel.bindSame (Parallel.refl (setClaims start)) fun _ => ?_
      refine Parallel.bind (planAssigned_follows unfolds recursing place same
        (Program.Equivalent.refl (Program.keep existing))) fun update updateAgain updates => ?_
      refine Parallel.bindSame (Parallel.refl claims) fun updateClaims => ?_
      refine Parallel.bindSame (Parallel.refl fresh) fun reused => ?_
      refine Parallel.bindSame (Parallel.refl _) fun _ => Parallel.pure ?_
      exact Program.Equivalent.reuse updates select

include unfolds recursing in
theorem planObject_follows :
    Follows env.settings related (planObject env recurse) (planObject (env.rebound later) again) := by
  intro site other same
  unfold planObject
  rw [Site.toward_target]
  cases found : site.target with
  | object declared =>
      rw [found] at same
      cases same with
      | object types =>
          refine Parallel.bindSame (isAbsent_follows _) fun absent => ?_
          refine Parallel.branch (Parallel.pure .none) ?_
          dsimp only [Environment.rebound]
          rw [types.name]
          cases env.settings.ofType? declared.name with
          | none => exact Parallel.planned (planSingle_follows unfolds recursing _ none types)
          | some own =>
              refine Parallel.branch ?_ ?_
              · exact Parallel.planned (planSingle_follows unfolds recursing _ (some own) types)
              · exact Parallel.planned (planPolymorphic_follows unfolds recursing _ own types)
  | _ =>
      rw [found] at same
      cases same
      exact Parallel.pure .none

end Objects

/-! ## The standard strategy -/

theorem orRelease_follows {left right : Planning (Option Program)}
    (parallel : Parallel (Option.Rel Program.Equivalent) left right) :
    Parallel (Option.Rel Program.Equivalent) (orRelease left) (orRelease right) := by
  refine Parallel.bindSame (Parallel.refl claims) fun before => ?_
  refine Parallel.bind parallel fun found foundAgain items => ?_
  cases items with
  | some item => exact Parallel.pure (.some item)
  | none => exact Parallel.bindSame (Parallel.refl _) fun _ => Parallel.pure .none

theorem inOrder_follows {settings : Settings} {other : Target} {planners others : List Planner}
    (same : Target.Counterpart related settings site.target other)
    (each : List.Forall₂ (Follows settings related) planners others) :
    Parallel (Option.Rel Program.Equivalent) (inOrder site planners)
      (inOrder (site.toward other) others) := by
  induction each with
  | nil => exact Parallel.pure .none
  | cons first _ ih =>
      refine Parallel.bind (orRelease_follows (first site other same))
        fun found foundAgain items => ?_
      cases items with
      | some item => exact Parallel.pure (.some item)
      | none => exact ih

theorem standard_follows (unfolds : Unfolds related env.settings env.bindings later) (levels : Nat) :
    Follows env.settings related (standard env levels) (standard (env.rebound later) levels) := by
  induction levels with
  | zero => exact fun _ _ _ => Parallel.throw _ _
  | succ levels ih =>
      intro site other same
      refine inOrder_follows same ?_
      exact .cons (planUntypedMember_follows unfolds)
        (.cons (planLeaf_follows unfolds)
        (.cons (planTuple_follows unfolds ih)
        (.cons (planArray_follows unfolds ih)
        (.cons (planDictionary_follows unfolds ih)
        (.cons (planSequence_follows unfolds ih)
        (.cons (planObject_follows unfolds ih) .nil))))))

end Planning

end Unflatten
