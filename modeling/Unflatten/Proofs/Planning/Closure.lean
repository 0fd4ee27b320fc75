import Unflatten.Proofs.Planning.Outcome

/-!
# What holds of all planning

A property of actions that the small actions have and that sequences keep holds of everything that
the standard strategy does. Besides the failures of its parts an action fails for a target that is
nested too deep or for a type without a usable constructor.

One such property is that registers are never given back: whatever comes of an action, a failure
included, the next free register afterwards is not below the one before.
-/

set_option autoImplicit false

namespace Unflatten.Planning

/-- The property holds of the small actions and is kept where actions follow one another. What is
thrown is a failure of the two kinds, or one that an attempt has met. -/
structure Closed (env : Environment) (holds : (α : Type) → Planning α → Prop) : Prop where
  pure : ∀ {α : Type} (value : α), holds α (Pure.pure value)
  fresh : holds Register fresh
  claims : holds Claims claims
  setClaims : ∀ marks : Claims, holds Unit (setClaims marks)
  tooDeep : ∀ name : String, holds (Option Program) (throw (.shape (.tooDeep name)))
  constructors : ∀ (site : Site) (type : ObjectType),
    holds Constructor (chooseConstructor env site type)
  bind : ∀ {α β : Type} {first : Planning α} {rest : α → Planning β}, holds α first →
    (∀ value, holds β (rest value)) → holds β (first >>= rest)
  attempt : ∀ {α β : Type} {action : Planning α} {rest : Except Failure α → Planning β},
    holds α action →
    (∀ outcome, (∀ failure, outcome = .error failure → ∀ γ : Type, holds γ (throw failure)) →
      holds β (rest outcome)) →
    holds β (Planning.attempt action >>= rest)

section Closed

variable {env : Environment} {holds : (α : Type) → Planning α → Prop}
variable (closed : Closed env holds)
include closed

/-! ## Small actions -/

section Primitives

theorem closed_available (scope : Scope) : holds _ (available env scope) :=
  closed.bind closed.claims fun _ => closed.pure _

theorem closed_find? (scope : Scope) (name : String) : holds _ (find? env scope name) :=
  closed.bind closed.claims fun _ => closed.pure _

theorem closed_hasMember (scope : Scope) (name : String) : holds _ (hasMember env scope name) :=
  closed.bind closed.claims fun _ => closed.pure _

theorem closed_read (column : HeaderColumn) (leaf : Leaf) : holds _ (read env column leaf) := by
  refine closed.bind closed.claims fun marks => closed.bind (closed.setClaims _) fun _ => ?_
  exact closed.bind closed.fresh fun into => closed.pure _

theorem closed_constant (value : Value) : holds _ (constant value) :=
  closed.bind closed.fresh fun _ => closed.pure _

theorem closed_pack (form : SequenceForm) (items : List Program) : holds _ (pack form items) :=
  closed.bind closed.fresh fun _ => closed.pure _

theorem closed_planned {action : Planning Program} (each : holds _ action) :
    holds _ (do pure (some (← action))) :=
  closed.bind each fun _ => closed.pure _

theorem closed_readAll (leaf : Leaf) (columns : List HeaderColumn) :
    holds _ (readAll env leaf columns) := by
  induction columns with
  | nil => exact closed.pure _
  | cons column rest ih =>
      exact closed.bind (closed_read closed column leaf) fun _ =>
        closed.bind ih fun _ => closed.pure _

end Primitives

/-! ## Leaves and containers -/

section Containers

variable {recurse : Planner} {site : Site}

theorem closed_unlessAbsent {α : Type} {absent present : Planning α} (first : holds _ absent)
    (second : holds _ present) :
    holds _ (do if ← isAbsent env site then absent else present) := by
  refine closed.bind (closed.bind (closed_available closed _) fun _ => closed.pure _)
    fun found => ?_
  split
  · exact first
  · exact second

theorem closed_readGroup (leaf : Leaf) (group : Namesakes) :
    holds _ (readGroup env leaf group) := by
  refine closed.bind (closed_readAll closed leaf group.columns) fun items => ?_
  split
  · exact closed.pure _
  · exact closed_pack closed _ _

theorem closed_insertGroups (leaf : Leaf) (type : Option DictionaryType) (target : Register)
    (groups : List Namesakes) : holds _ (insertGroups env leaf type target groups) := by
  induction groups with
  | nil => exact closed.pure _
  | cons group rest ih =>
      exact closed.bind (closed_readGroup closed leaf group) fun _ =>
        closed.bind ih fun _ => closed.pure _

theorem closed_planUntyped : holds _ (planUntyped env site) := by
  unfold planUntyped
  split
  · exact closed.pure _
  · split
    · exact closed.pure _
    · split
      · refine closed.bind closed.fresh fun into => closed.bind closed.claims fun found => ?_
        exact closed.bind (closed_insertGroups closed _ _ _ _) fun _ => closed.pure _
      · refine closed.bind (closed_available closed _) fun columns => ?_
        split
        · exact closed_planned closed (closed_constant closed _)
        · exact closed_planned closed (closed_read closed _ _)
        · exact closed.bind (closed_readAll closed _ _) fun _ =>
            closed_planned closed (closed_pack closed _ _)

theorem closed_planUntypedMember : holds _ (planUntypedMember env site) := by
  unfold planUntypedMember
  split
  · exact closed_planUntyped closed
  · exact closed.pure _

theorem closed_planLeaf : holds _ (planLeaf env site) := by
  unfold planLeaf
  split
  · exact closed.pure _
  · refine closed.bind (closed_available closed _) fun columns => ?_
    split
    · exact closed_planned closed (closed_read closed _ _)
    · split
      · exact closed_planned closed (closed_constant closed _)
      · exact closed.pure _

theorem closed_reuseOrCreate (expectation : Expectation) (create : Program) :
    holds _ (reuseOrCreate site expectation create) := by
  unfold reuseOrCreate
  split
  · exact closed.pure _
  · exact closed.bind closed.fresh fun _ => closed.pure _

variable (each : ∀ site, holds _ (recurse site))
include each

theorem closed_planSlots (slots : List Target) : holds _ (planSlots env recurse site slots) := by
  induction slots with
  | nil => exact closed.pure _
  | cons target rest ih =>
      rw [planSlots]
      refine closed.bind (each _) fun found => ?_
      split
      · exact closed.bind (closed.pure _) fun _ => closed.bind ih fun _ => closed.pure _
      · exact closed.bind (closed_constant closed _) fun _ =>
          closed.bind ih fun _ => closed.pure _

theorem closed_planTuple : holds _ (planTuple env recurse site) := by
  unfold planTuple
  split
  · split
    · exact closed.pure _
    · refine closed_unlessAbsent closed (closed.pure _) ?_
      exact closed.bind (closed_planSlots closed each _) fun _ =>
        closed_planned closed (closed_pack closed _ _)
  · exact closed.pure _

theorem closed_repeatElement (element : Target) (limit : Nat) :
    holds _ (repeatElement env recurse site element limit) := by
  induction limit with
  | zero => exact closed.pure _
  | succ limit ih =>
      rw [repeatElement]
      refine closed.bind closed.claims fun before =>
        closed.attempt (each _) fun outcome thrown => ?_
      split
      · refine closed.bind closed.claims fun after => ?_
        split
        · refine closed.attempt ih fun others _ => ?_
          split
          · exact closed.pure _
          · exact closed.pure _
        · exact closed.bind (closed.setClaims _) fun _ => closed.pure _
      · exact closed.bind (closed.setClaims _) fun _ => closed.pure _
      · exact closed.bind (closed.setClaims _) fun _ => thrown _ rfl _

theorem closed_planElements (element : Target) :
    holds _ (planElements env recurse site element) := by
  unfold planElements
  split
  · exact closed.bind (closed_available closed _) fun _ => closed_readAll closed _ _
  · exact closed_repeatElement closed each _ _

theorem closed_planItems (type : Option SequenceType) (element : Target) :
    holds _ (planItems env recurse site type element) := by
  refine closed_unlessAbsent closed (closed.pure _) (closed.bind closed.fresh fun into => ?_)
  refine closed.bind (closed_reuseOrCreate closed _ _) fun start => ?_
  exact closed.bind (closed_planElements closed each _) fun _ => closed.pure _

theorem closed_planSequence : holds _ (planSequence env recurse site) := by
  unfold planSequence
  split
  · exact closed_planItems closed each _ _
  · split
    · exact closed.pure _
    · exact closed_planItems closed each _ _
  · exact closed.pure _

theorem closed_planArray : holds _ (planArray env recurse site) := by
  unfold planArray
  split
  · refine closed_unlessAbsent closed (closed.pure _) ?_
    split
    · exact closed.bind (closed_planElements closed each _) fun _ =>
        closed_planned closed (closed_pack closed _ _)
    · refine closed.bind (each _) fun found => ?_
      split
      · exact closed_planned closed (closed_pack closed _ _)
      · exact closed_planned closed (closed_pack closed _ _)
  · exact closed.pure _

theorem closed_insertSegments (type : Option DictionaryType) (value : Target) (target : Register)
    (segments : List (String × String)) :
    holds _ (insertSegments env recurse site type value target segments) := by
  induction segments with
  | nil => exact closed.pure _
  | cons segment rest ih =>
      rw [insertSegments]
      refine closed.bind (each _) fun found => ?_
      split
      · exact closed.bind (closed.pure _) fun _ => closed.bind ih fun _ => closed.pure _
      · exact closed.bind (closed.pure _) fun _ => closed.bind ih fun _ => closed.pure _

theorem closed_planInserts (type : Option DictionaryType) (value : Target) (target : Register) :
    holds _ (planInserts env recurse site type value target) := by
  unfold planInserts
  split
  · exact closed.bind closed.claims fun _ => closed_insertGroups closed _ _ _ _
  · exact closed.bind closed.claims fun _ => closed_insertSegments closed each _ _ _ _

theorem closed_planEntries (type : Option DictionaryType) (value : Target) :
    holds _ (planEntries env recurse site type value) := by
  refine closed_unlessAbsent closed (closed.pure _) (closed.bind closed.fresh fun into => ?_)
  refine closed.bind (closed_reuseOrCreate closed _ _) fun start => ?_
  exact closed.bind (closed_planInserts closed each _ _ _) fun _ => closed.pure _

theorem closed_planDictionary : holds _ (planDictionary env recurse site) := by
  unfold planDictionary
  split
  · exact closed_planEntries closed each _ _
  · split
    · exact closed.pure _
    · exact closed_planEntries closed each _ _
  · exact closed.pure _

end Containers

/-! ## Objects -/

section Objects

variable {recurse : Planner} {site : Site} (each : ∀ site, holds _ (recurse site))
include each

theorem closed_planSink (target : Target) : holds _ (planSink env recurse site target) := by
  refine closed.bind closed.claims fun found => ?_
  dsimp only
  split
  · exact closed.pure _
  · exact each _

theorem closed_planNamedArgument (parameter : Parameter) :
    holds _ (planNamedArgument env recurse site parameter) := by
  refine closed.bind (closed_find? closed _ _) fun column? => ?_
  split
  · split
    · exact closed_planned closed (closed_read closed _ _)
    · exact closed.pure _
  · refine closed.bind (closed_hasMember closed _ _) fun found => ?_
    split
    · exact each _
    · exact closed.pure _

theorem closed_planArgument (parameter : Parameter) :
    holds _ (planArgument env recurse site parameter) := by
  refine closed.bind (closed_planNamedArgument closed each parameter) fun named => ?_
  split
  · exact closed.pure _
  · split
    · refine closed.bind (closed_planSink closed each _) fun sink? => ?_
      cases sink? with
      | some program => exact closed.pure _
      | none => exact closed_constant closed _
    · exact closed.bind (closed.pure none) fun sink? => by
        cases sink? with
        | some program => exact closed.pure _
        | none => exact closed_constant closed _

theorem closed_planArguments (parameters : List Parameter) :
    holds _ (planArguments env recurse site parameters) := by
  induction parameters with
  | nil => exact closed.pure _
  | cons parameter rest ih =>
      exact closed.bind (closed_planArgument closed each parameter) fun _ =>
        closed.bind ih fun _ => closed.pure _

theorem closed_planInstance (type : ObjectType) (factory : Option Factory) :
    holds _ (planInstance env recurse site type factory) := by
  unfold planInstance
  dsimp only
  split
  · exact closed.bind closed.fresh fun _ => closed.pure _
  · refine closed.bind (closed.constructors site type) fun constructor => ?_
    refine closed.bind (closed_planArguments closed each _) fun arguments => ?_
    exact closed.bind closed.fresh fun _ => closed.pure _

theorem closed_setProperty (target : Register) (property : Property) :
    holds _ (setProperty env recurse site target property) := by
  unfold setProperty
  split
  · refine closed.bind (closed_find? closed _ _) fun column? => ?_
    split
    · exact closed.bind (closed_read closed _ _) fun _ => closed.pure _
    · exact closed.pure _
  · refine closed.bind closed.fresh fun existing => closed.bind (each _) fun value => ?_
    split
    · exact closed.pure _
    · exact closed.pure _

omit each in
theorem closed_setEach {assign : Property → Planning (List Step)}
    (assigns : ∀ property, holds _ (assign property)) (properties : List Property) :
    holds _ (setEach assign properties) := by
  induction properties with
  | nil => exact closed.pure _
  | cons property rest ih =>
      exact closed.bind (assigns property) fun _ => closed.bind ih fun _ => closed.pure _

theorem closed_setProperties (type : ObjectType) (target : Register) :
    holds _ (setProperties env recurse site type target) := by
  refine closed.bind (closed_setEach closed (closed_setProperty closed each target) _)
    fun plain => ?_
  refine closed.bind (closed_setEach closed (fun property => ?_) _) fun _ => closed.pure _
  exact closed.bind (closed_planSink closed each _) fun _ => closed.pure _

theorem closed_planAssigned (type : ObjectType) (start : Program) :
    holds _ (planAssigned env recurse site type start) :=
  closed.bind (closed_setProperties closed each type _) fun _ => closed.pure _

theorem closed_planConcrete (type : ObjectType) (factory : Option Factory) :
    holds _ (planConcrete env recurse site type factory) :=
  closed.bind (closed_planInstance closed each type factory) fun _ =>
    closed_planAssigned closed each type _

theorem closed_planSingle (declared : ObjectType) (own : Option TypePolicy) :
    holds _ (planSingle env recurse site declared own) := by
  refine closed.bind (closed_planInstance closed each _ _) fun create => ?_
  exact closed.bind (closed_reuseOrCreate closed _ _) fun _ => closed_planAssigned closed each _ _

theorem closed_planBranches (start : Claims) (rules : List SubtypeCase) :
    holds _ (planBranches env recurse site start rules) := by
  induction rules with
  | nil => exact closed.pure _
  | cons rule rest ih =>
      refine closed.bind (closed.setClaims _) fun _ => ?_
      refine closed.bind (closed_planConcrete closed each _ _) fun program => ?_
      exact closed.bind closed.claims fun _ => closed.bind ih fun _ => closed.pure _

theorem closed_planFallback (declared : ObjectType) (own : TypePolicy) :
    holds _ (planFallback env recurse site declared own) := by
  unfold planFallback
  split
  · exact closed_planConcrete closed each _ _
  · split
    · exact closed.bind closed.fresh fun _ => closed.pure _
    · exact closed_planConcrete closed each _ _

theorem closed_planPolymorphic (declared : ObjectType) (own : TypePolicy) :
    holds _ (planPolymorphic env recurse site declared own) := by
  refine closed.bind closed.claims fun start => ?_
  refine closed.bind (closed_planBranches closed each _ _) fun branches => ?_
  refine closed.bind (closed.setClaims _) fun _ => ?_
  refine closed.bind (closed_planFallback closed each _ _) fun fallback => ?_
  refine closed.bind closed.claims fun fallbackClaims => closed.bind closed.fresh fun into => ?_
  dsimp only
  split
  · exact closed.bind (closed.setClaims _) fun _ => closed.pure _
  · refine closed.bind (closed.setClaims _) fun _ => ?_
    refine closed.bind (closed_planAssigned closed each _ _) fun update => ?_
    refine closed.bind closed.claims fun _ => closed.bind closed.fresh fun reused => ?_
    exact closed.bind (closed.setClaims _) fun _ => closed.pure _

theorem closed_planObject : holds _ (planObject env recurse site) := by
  unfold planObject
  split
  · refine closed_unlessAbsent closed (closed.pure _) ?_
    split
    · split
      · exact closed_planned closed (closed_planSingle closed each _ _)
      · exact closed_planned closed (closed_planPolymorphic closed each _ _)
    · exact closed_planned closed (closed_planSingle closed each _ _)
  · exact closed.pure _

end Objects

/-! ## The standard strategy -/

variable {site : Site}

theorem closed_inOrder {planners : List Planner}
    (each : ∀ planner ∈ planners, ∀ site, holds _ (planner site)) :
    holds _ (inOrder site planners) := by
  induction planners with
  | nil => exact closed.pure _
  | cons planner rest ih =>
      have released : holds _ (orRelease (planner site)) := by
        refine closed.bind closed.claims fun before =>
          closed.bind (each planner (by simp) site) fun found => ?_
        split
        · exact closed.pure _
        · exact closed.bind (closed.setClaims _) fun _ => closed.pure _
      refine closed.bind released fun found => ?_
      split
      · exact closed.pure _
      · exact ih fun other member => each other (by simp [member])

theorem closed_standardPlanners {recurse : Planner} (each : ∀ site, holds _ (recurse site))
    (planner : Planner) (member : planner ∈ standardPlanners env recurse) (site : Site) :
    holds _ (planner site) := by
  simp only [standardPlanners, List.mem_cons, List.not_mem_nil, or_false] at member
  rcases member with rfl | rfl | rfl | rfl | rfl | rfl | rfl
  · exact closed_planUntypedMember closed
  · exact closed_planLeaf closed
  · exact closed_planTuple closed each
  · exact closed_planArray closed each
  · exact closed_planDictionary closed each
  · exact closed_planSequence closed each
  · exact closed_planObject closed each

theorem closed_standard (levels : Nat) : holds _ (standard env levels site) := by
  induction levels generalizing site with
  | zero => exact closed.tooDeep _
  | succ levels ih => exact closed_inOrder closed (closed_standardPlanners closed fun _ => ih)

end Closed

/-! ## Registers are never given back -/

def Climbs {α : Type} (action : Planning α) : Prop :=
  ∀ pass, pass.nextRegister ≤ (action pass).2.nextRegister

theorem Climbs.bind {α β : Type} {first : Planning α} {rest : α → Planning β}
    (climbs : Climbs first) (later : ∀ value, Climbs (rest value)) : Climbs (first >>= rest) := by
  intro pass
  have up := climbs pass
  rw [bind_eq]
  generalize first pass = done at up
  obtain ⟨outcome, between⟩ := done
  cases outcome with
  | error failure => exact up
  | ok value => exact Nat.le_trans up (later value between)

theorem Climbs.attempt {α : Type} {action : Planning α} (climbs : Climbs action) :
    Climbs (attempt action) :=
  climbs

theorem Climbs.gives {α : Type} {action : Planning α} {pass next : Pass} {value : α}
    (climbs : Climbs action) (given : Gives action pass value next) :
    pass.nextRegister ≤ next.nextRegister := by
  have up := climbs pass
  rw [given] at up
  exact up

theorem Climbs.fails {α : Type} {action : Planning α} {pass next : Pass} {failure : Failure}
    (climbs : Climbs action) (failed : Fails action pass failure next) :
    pass.nextRegister ≤ next.nextRegister := by
  have up := climbs pass
  rw [failed] at up
  exact up

theorem climbs_throw {α : Type} {failure : Failure} : Climbs (throw failure : Planning α) :=
  fun _ => Nat.le_refl _

variable {env : Environment} {recurse : Planner} {site : Site}

theorem climbs_closed (env : Environment) : Closed env fun _ => Climbs where
  pure := fun _ _ => Nat.le_refl _
  fresh := fun _ => Nat.le_succ _
  claims := fun _ => Nat.le_refl _
  setClaims := fun _ _ => Nat.le_refl _
  tooDeep := fun _ => climbs_throw
  constructors := by
    intro site type
    refine Climbs.bind (fun _ => Nat.le_refl _) fun view => ?_
    split
    · exact fun _ => Nat.le_refl _
    · exact climbs_throw
  bind := Climbs.bind
  attempt := fun climbs later =>
    climbs.attempt.bind fun outcome => later outcome fun _ _ _ => climbs_throw

theorem climbs_repeatElement {element : Target} {limit : Nat}
    (climbs : ∀ site, Climbs (recurse site)) :
    Climbs (repeatElement env recurse site element limit) :=
  closed_repeatElement (climbs_closed env) climbs element limit

theorem climbs_planAssigned {type : ObjectType} {start : Program}
    (climbs : ∀ site, Climbs (recurse site)) :
    Climbs (planAssigned env recurse site type start) :=
  closed_planAssigned (climbs_closed env) climbs type start

theorem climbs_standard {levels : Nat} : Climbs (standard env levels site) :=
  closed_standard (climbs_closed env) levels

end Unflatten.Planning
