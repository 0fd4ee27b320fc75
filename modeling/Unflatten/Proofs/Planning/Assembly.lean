import Unflatten.Proofs.Program.Outcomes

/-!
# Assembling plans

What the planners of properties, instances and object types give if their parts are given, and how
the standard planners are tried in turn. A planned cell comes to what its conversion gives.
-/

set_option autoImplicit false

namespace Unflatten.Planning

variable {env : Environment} {recurse : Planner} {row : Row} {site : Site}
variable {pass middle between next : Pass} {existing : Option Register} {program : Program}
variable {type : ObjectType} {leaf : Leaf}

theorem read_evaluates {column : HeaderColumn}
    (given : Gives (read env column leaf) pass program next) :
    Evaluates row existing program next
      (readColumn row ⟨column.index, column.name⟩
        (Conversion.select env.rules leaf column.type)).toOption := by
  obtain ⟨rfl, rfl⟩ := gives_read.mp given
  exact Evaluates.single (fun registers => by rw [runStep]) rfl

theorem constant_evaluates {value : Value} (given : Gives (constant value) pass program next) :
    Evaluates row existing program next (some value) := by
  obtain ⟨rfl, rfl⟩ := gives_constant.mp given
  exact @Evaluates.single _ _ pass _ _ (.ok value) (fun registers => by rw [runStep]; rfl) rfl

/-! ## Properties -/

section Properties

variable {property : Property} {target : Register} {steps : List Step}

theorem setProperty_member {found : Option Program}
    (untyped : (property.target.leaf?.filter fun leaf => !leaf.isAny) = none)
    (planned : Gives
      (recurse (site.member env property.name property.target (some pass.nextRegister)))
      pass.advanced found next) :
    Gives (setProperty env recurse site target property) pass
      (match found with
        | some value =>
          .project target property.name pass.nextRegister ::
            setSteps target property.name (some value)
        | none => []) next := by
  rw [setProperty, untyped]
  refine gives_bind.mpr ⟨_, _, gives_fresh.mpr ⟨rfl, rfl⟩, ?_⟩
  refine gives_bind.mpr ⟨_, _, planned, ?_⟩
  cases found with
  | some value => exact gives_pure.mpr ⟨rfl, rfl⟩
  | none => exact gives_pure.mpr ⟨rfl, rfl⟩

theorem setProperty_leaf
    (scalar : (property.target.leaf?.filter fun leaf => !leaf.isAny) = some leaf)
    (sets : Gives
      (match env.header.find? pass.claims site.scope (foldName property.name) with
        | some column => do
          pure (setSteps target property.name (some (← read env column leaf)))
        | none => pure []) pass steps next) :
    Gives (setProperty env recurse site target property) pass steps next := by
  rw [setProperty, scalar]
  exact gives_bind.mpr ⟨_, _, gives_find?.mpr ⟨rfl, rfl⟩, sets⟩

theorem setProperties_all
    (assignable : ∀ property ∈ type.properties, property.isAssignable = true)
    (noSinks : ∀ property ∈ type.properties, property.isSink = false)
    (set : Gives (setEach (setProperty env recurse site target) type.properties) pass steps next) :
    Gives (setProperties env recurse site type target) pass steps next := by
  have plain : plainProperties type = type.properties := by
    rw [plainProperties, List.filter_eq_self.mpr assignable, List.filter_eq_self]
    intro property member
    simp [noSinks property member]
  have sinks : sinkProperties type = [] := by
    rw [sinkProperties, List.filter_eq_nil_iff]
    intro property member
    simp [noSinks property (List.mem_of_mem_filter member)]
  rw [← plain] at set
  have noneSet : Gives (setEach (setSink env recurse site target) (sinkProperties type)) next []
      next := by
    rw [sinks]
    exact gives_pure.mpr ⟨rfl, rfl⟩
  refine gives_bind.mpr ⟨_, _, set, gives_bind.mpr ⟨_, _, noneSet, gives_pure.mpr ⟨?_, rfl⟩⟩⟩
  exact (List.append_nil steps).symm

end Properties

/-! ## Object types -/

section Objects

variable {own : Option TypePolicy} {create start : Program}

theorem planInstance_constructs {constructor : Constructor} {arguments : List Program}
    (unmade : (env.settings.ofType? type.name).bind TypePolicy.factory = none)
    (chosen : type.chooseConstructor (env.settings.ofType? type.name)
      ⟨env.header, pass.claims, site.scope⟩ env.settings = .ok constructor)
    (planned : Gives (planArguments env recurse site constructor.parameters) pass arguments
      middle) :
    Gives (planInstance env recurse site type none) pass
      ⟨arguments.flatMap ProgramOf.steps
          ++ [.construct type constructor (arguments.map ProgramOf.result) middle.nextRegister],
        middle.nextRegister⟩ middle.advanced := by
  unfold planInstance
  rw [unmade]
  refine gives_bind.mpr ⟨constructor, _, gives_chooseConstructor.mpr ⟨chosen, rfl⟩, ?_⟩
  refine gives_bind.mpr ⟨_, _, planned, ?_⟩
  exact gives_bind.mpr ⟨_, _, gives_fresh.mpr ⟨rfl, rfl⟩, gives_pure.mpr ⟨rfl, rfl⟩⟩

variable (site) in
theorem reuseOrCreate_evaluates {outcome : Option Value} (expectation : Expectation)
    (creates : Evaluates row none create middle outcome) :
    ∃ start between, Gives (reuseOrCreate site expectation create) middle start between ∧
      Evaluates row site.existing start between outcome ∧ between.claims = middle.claims := by
  unfold reuseOrCreate
  cases found : site.existing with
  | none => exact ⟨create, middle, gives_pure.mpr ⟨rfl, rfl⟩, creates, rfl⟩
  | some register =>
      refine ⟨_, middle.advanced, gives_bind.mpr ⟨_, _, gives_fresh.mpr ⟨rfl, rfl⟩,
        gives_pure.mpr ⟨rfl, rfl⟩⟩, ?_, rfl⟩
      exact Evaluates.reuse creates (Nat.le_succ _) (Nat.lt_succ_self middle.nextRegister)

theorem planSingle_assigned {assigns : List Step} (isType : concreteOf type own = type)
    (unmade : own.bind TypePolicy.factory = none)
    (created : Gives (planInstance env recurse site type none) pass create middle)
    (started : Gives (reuseOrCreate site .object create) middle start between)
    (set : Gives (setProperties env recurse site type start.result) between assigns next) :
    Gives (planSingle env recurse site type own) pass ⟨start.steps ++ assigns, start.result⟩
      next := by
  have instanced : Gives (planInstance env recurse site (concreteOf type own)
      (own.bind TypePolicy.factory)) pass create middle := by
    rw [isType, unmade]
    exact created
  have assigned : Gives (setProperties env recurse site (concreteOf type own) start.result) between
      assigns next := by
    rw [isType]
    exact set
  refine gives_bind.mpr ⟨_, _, instanced, gives_bind.mpr ⟨_, _, started, ?_⟩⟩
  exact gives_bind.mpr ⟨_, _, assigned, gives_pure.mpr ⟨rfl, rfl⟩⟩

theorem planObject_single (isObject : site.target = .object type)
    (present :
      (!site.isRoot && (env.header.available pass.claims site.scope).isEmpty) = false)
    (single : ∀ own, env.settings.ofType? type.name = some own → own.subtypes = [])
    (planned : Gives (planSingle env recurse site type (env.settings.ofType? type.name)) pass
      program next) :
    Gives (planObject env recurse site) pass (some program) next := by
  unfold planObject
  rw [isObject]
  refine gives_bind.mpr ⟨false, _, gives_isAbsent.mpr ⟨present.symm, rfl⟩, ?_⟩
  cases own : env.settings.ofType? type.name with
  | none =>
      rw [own] at planned
      exact gives_planned.mpr ⟨_, rfl, planned⟩
  | some policy =>
      rw [own] at planned
      simp only [single policy own]
      exact gives_planned.mpr ⟨_, rfl, planned⟩

end Objects

/-! ## The standard planners -/

section Standard

variable {planner : Planner} {planners : List Planner} {result : Option Program}

theorem orRelease_declines {action : Planning (Option Program)}
    (declined : Gives action pass none pass) : Gives (orRelease action) pass none pass := by
  refine gives_bind.mpr ⟨_, _, gives_claims.mpr ⟨rfl, rfl⟩, ?_⟩
  refine gives_bind.mpr ⟨_, _, declined, ?_⟩
  exact gives_bind.mpr ⟨(), _, gives_setClaims.mpr rfl, gives_pure.mpr ⟨rfl, rfl⟩⟩

theorem orRelease_plans {action : Planning (Option Program)}
    (planned : Gives action pass (some program) next) :
    Gives (orRelease action) pass (some program) next := by
  refine gives_bind.mpr ⟨_, _, gives_claims.mpr ⟨rfl, rfl⟩, ?_⟩
  exact gives_bind.mpr ⟨_, _, planned, gives_pure.mpr ⟨rfl, rfl⟩⟩

theorem inOrder_first (planned : Gives (planner site) pass (some program) next) :
    Gives (inOrder site (planner :: planners)) pass (some program) next :=
  gives_bind.mpr ⟨_, _, orRelease_plans planned, gives_pure.mpr ⟨rfl, rfl⟩⟩

theorem inOrder_later (declined : Gives (planner site) pass none pass)
    (later : Gives (inOrder site planners) pass result next) :
    Gives (inOrder site (planner :: planners)) pass result next :=
  gives_bind.mpr ⟨_, _, orRelease_declines declined, later⟩

theorem standardPlanners_object (isObject : site.target = .object type)
    (planned : Gives (planObject env recurse site) pass (some program) next) :
    Gives (inOrder site (standardPlanners env recurse)) pass (some program) next := by
  refine inOrder_later ?_ (inOrder_later ?_ (inOrder_later ?_ (inOrder_later ?_
    (inOrder_later ?_ (inOrder_later ?_ (inOrder_first planned))))))
  · rw [planUntypedMember, takesAllColumns, isObject]
    exact gives_pure.mpr ⟨rfl, rfl⟩
  · rw [planLeaf, isObject]
    exact gives_pure.mpr ⟨rfl, rfl⟩
  · rw [planTuple, isObject]
    exact gives_pure.mpr ⟨rfl, rfl⟩
  · rw [planArray, isObject]
    exact gives_pure.mpr ⟨rfl, rfl⟩
  · rw [planDictionary, isObject]
    exact gives_pure.mpr ⟨rfl, rfl⟩
  · rw [planSequence, isObject]
    exact gives_pure.mpr ⟨rfl, rfl⟩

end Standard

end Unflatten.Planning
