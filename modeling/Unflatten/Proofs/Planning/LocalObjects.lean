import Unflatten.Proofs.Planning.LocalMembers

/-!
# Objects are planned locally

The branches of a type with subtype rules start from the claims of one pass each and end in claims
of their own. On both sides these are the same for the columns of the scope, so they are merged to
the same, and the standard strategy plans locally at every number of levels.
-/

set_option autoImplicit false

namespace Unflatten

namespace Claims

/-- Claims that have come from `start` on the one side and from `others` on the other by the same
claims on columns of the scope. -/
structure Moved (header : Header) (scope : Scope) (start others reached again : Claims) : Prop where
  sized : reached.length = header.length
  otherSized : again.length = header.length
  within : AgreeWithin header scope reached again
  here : AgreeOutside header scope start reached
  there : AgreeOutside header scope others again

variable {header : Header} {scope : Scope} {start others : Claims}
variable {one another more again : Claims}

theorem Moved.merge (first : Moved header scope start others one another)
    (second : Moved header scope start others more again) :
    Moved header scope start others (one.merge more) (another.merge again) := by
  have merged {left right : Claims} (same : left.length = right.length) (index : Nat) :
      (left.merge right).isClaimed index = (left.isClaimed index || right.isClaimed index) := by
    rw [Bool.eq_iff_iff, Claims.isClaimed_merge same, Bool.or_eq_true]
  have sized := first.sized.trans second.sized.symm
  have otherSized := first.otherSized.trans second.otherSized.symm
  refine ⟨?_, ?_, fun column member covers => ?_, fun column member uncovered => ?_,
    fun column member uncovered => ?_⟩
  · exact (Claims.length_merge sized).trans first.sized
  · exact (Claims.length_merge otherSized).trans first.otherSized
  · rw [merged sized, merged otherSized, first.within column member covers,
      second.within column member covers]
  · rw [merged sized, first.here column member uncovered, second.here column member uncovered,
      Bool.or_self]
  · rw [merged otherSized, first.there column member uncovered,
      second.there column member uncovered, Bool.or_self]

theorem Moved.merged {outcomes anew : List Claims}
    (first : Moved header scope start others one another)
    (each : List.Forall₂ (Moved header scope start others) outcomes anew) :
    Moved header scope start others (outcomes.foldl Claims.merge one)
      (anew.foldl Claims.merge another) := by
  induction each generalizing one another with
  | nil => exact first
  | cons next rest ih => exact ih (first.merge next)

end Claims

def Branch.moved (offset : Nat) (branch : Branch) : Branch :=
  ⟨branch.accepts, branch.label, Program.moved offset branch.program⟩

theorem renameBranches_eq (offset : Nat) (branches : List Branch) :
    renameBranches (Register.further offset) branches = branches.map (Branch.moved offset) := by
  induction branches with
  | nil => rfl
  | cons branch rest ih =>
      obtain ⟨accepts, label, program⟩ := branch
      rw [renameBranches, ih, List.map_cons]
      rfl

namespace Planning

variable {env : Environment} {recurse : Planner} {site : Site} {offset : Nat} {pass other : Pass}
variable (type : ObjectType)

section Objects

variable (indexed : env.header.WellIndexed) (recursing : Local env offset recurse)

/-! ## Constructor arguments -/

include indexed recursing in
theorem planSink_local (target : Target) (agree : pass.Agree env site.scope offset other) :
    LocalAt env site.scope offset (MayBeMoved offset) (planSink env recurse site target)
      (planSink env recurse (site.moved offset) target) pass other := by
  refine LocalAt.claims ?_
  dsimp only [moved_scope]
  rw [Header.nameless_congr agree.claims]
  have inside : Scope.Inside env.header
      (.among (env.header.nameless pass.claims site.scope env.settings.sentinel)) site.scope :=
    Header.nameless_inside indexed env.settings.sentinel
  refine LocalAt.branch (LocalAt.pure rfl agree) ?_
  exact (recursing ⟨_, _, none, .member⟩ pass other (agree.mono inside)).widen agree inside

include recursing in
theorem member_local (name : String) (target : Target) (existing : Option Register)
    (agree : pass.Agree env site.scope offset other) :
    LocalAt env site.scope offset (MayBeMoved offset)
      (recurse (site.member env name target existing))
      (recurse ((site.member env name target existing).moved offset)) pass other := by
  have inside := Scope.member_inside env.header site.scope name env.settings.separator
  exact (recursing (site.member env name target existing) pass other (agree.mono inside)).widen
    agree inside

include indexed recursing in
theorem planNamedArgument_local (parameter : Parameter)
    (agree : pass.Agree env site.scope offset other) :
    LocalAt env site.scope offset (MayBeMoved offset)
      (planNamedArgument env recurse site parameter)
      (planNamedArgument env recurse (site.moved offset) parameter) pass other := by
  refine (find?_local agree (foldName parameter.name)).bind ?_
  rintro column? _ between after rfl found - agree
  obtain ⟨isFound, -⟩ := gives_find?.mp found
  cases parameter.target.leaf? with
  | some leaf =>
      cases column? with
      | none => exact LocalAt.pure rfl agree
      | some column =>
          obtain ⟨member, covers⟩ := Header.mem_available (List.mem_of_find?_eq_some isFound.symm)
          refine (read_local agree indexed member covers leaf).bind ?_
          rintro program - between after rfl - - agree
          exact LocalAt.pure rfl agree
  | none =>
      refine (hasMember_local agree parameter.name).bind ?_
      rintro found _ between after rfl - - agree
      refine LocalAt.branch ?_ (LocalAt.pure rfl agree)
      exact member_local recursing parameter.name parameter.target none agree

include indexed recursing in
theorem planArgument_local (parameter : Parameter)
    (agree : pass.Agree env site.scope offset other) :
    LocalAt env site.scope offset (IsMoved offset) (planArgument env recurse site parameter)
      (planArgument env recurse (site.moved offset) parameter) pass other := by
  refine (planNamedArgument_local indexed recursing parameter agree).bind ?_
  rintro found - between after rfl - - agree
  cases found with
  | some program => exact LocalAt.pure rfl agree
  | none =>
      refine LocalAt.branch ?_ ((constant_local agree _).congr rfl rfl)
      refine (planSink_local indexed recursing parameter.target agree).bind ?_
      rintro sink? - between after rfl - - agree
      cases sink? with
      | some program => exact LocalAt.pure rfl agree
      | none => exact constant_local agree _

include indexed recursing in
theorem planArguments_local (parameters : List Parameter)
    (agree : pass.Agree env site.scope offset other) :
    LocalAt env site.scope offset (AreMoved offset) (planArguments env recurse site parameters)
      (planArguments env recurse (site.moved offset) parameters) pass other := by
  induction parameters generalizing pass other with
  | nil => exact LocalAt.pure rfl agree
  | cons parameter rest ih =>
      refine (planArgument_local indexed recursing parameter agree).bind ?_
      rintro first - between after rfl - - agree
      refine (ih agree).bind ?_
      rintro others - between after rfl - - agree
      exact LocalAt.pure rfl agree

theorem chooseConstructor_local (agree : pass.Agree env site.scope offset other) :
    LocalAt env site.scope offset Eq (chooseConstructor env site type)
      (chooseConstructor env (site.moved offset) type) pass other := by
  have views : LocalAt env site.scope offset
      (fun one another => one = ⟨env.header, pass.claims, site.scope⟩ ∧
        another = ⟨env.header, other.claims, site.scope⟩)
      (view env site.scope) (view env site.scope) pass other :=
    ⟨Mirrors.ok ⟨rfl, rfl⟩, agree, Claims.AgreeOutside.refl, Claims.AgreeOutside.refl⟩
  refine views.bind ?_
  rintro - - between after ⟨rfl, rfl⟩ - - later
  rw [ObjectTypeOf.chooseConstructor_congr agree.claims]
  cases type.chooseConstructor (env.settings.ofType? type.name)
      ⟨env.header, pass.claims, site.scope⟩ env.settings with
  | ok constructor => exact LocalAt.pure rfl later
  | error failure => exact LocalAt.throw failure later

include indexed recursing in
theorem planInstance_local (factory : Option Factory)
    (agree : pass.Agree env site.scope offset other) :
    LocalAt env site.scope offset (IsMoved offset) (planInstance env recurse site type factory)
      (planInstance env recurse (site.moved offset) type factory) pass other := by
  simp only [planInstance]
  cases factory.or ((env.settings.ofType? type.name).bind TypePolicy.factory) with
  | some maker =>
      refine (fresh_local agree).bind ?_
      rintro into - between after rfl - - agree
      refine LocalAt.pure ?_ agree
      rw [IsMoved, Program.moved_single, Step.rename]
      rfl
  | none =>
      refine (chooseConstructor_local type agree).bind ?_
      rintro constructor _ between after rfl - - agree
      refine (planArguments_local indexed recursing constructor.parameters agree).bind ?_
      rintro arguments - between after rfl - - agree
      refine (fresh_local agree).bind ?_
      rintro into - between after rfl - - agree
      refine LocalAt.pure ?_ agree
      have results : (arguments.map (Program.moved offset)).map ProgramOf.result =
          (arguments.map ProgramOf.result).map (Register.further offset) := by
        rw [List.map_map, List.map_map]
        exact List.map_congr_left fun argument _ => moved_result argument
      rw [IsMoved, Program.moved, renameProgram, renameSteps_append, renameSteps_flatMap,
        renameSteps_cons, renameSteps_nil, Step.rename, results]
      rfl

/-! ## Properties -/

theorem setSteps_moved (target : Register) (field : String) (value : Option Program) :
    renameSteps (Register.further offset) (setSteps target field value) =
      setSteps (target + offset) field (value.map (Program.moved offset)) := by
  cases value with
  | none => exact renameSteps_nil _
  | some program =>
      rw [Option.map_some, setSteps, setSteps, renameSteps_append, renameSteps_cons,
        renameSteps_nil, Step.rename, moved_result, Program.moved, renameProgram_steps]
      rfl

include indexed recursing in
theorem setProperty_local (target : Register) (property : Property)
    (agree : pass.Agree env site.scope offset other) :
    LocalAt env site.scope offset (StepsMoved offset) (setProperty env recurse site target property)
      (setProperty env recurse (site.moved offset) (target + offset) property) pass other := by
  unfold setProperty
  cases property.target.leaf?.filter fun leaf => !leaf.isAny with
  | some leaf =>
      refine (find?_local agree (foldName property.name)).bind ?_
      rintro column? _ between after rfl found - agree
      obtain ⟨isFound, -⟩ := gives_find?.mp found
      cases column? with
      | none => exact LocalAt.pure (renameSteps_nil _).symm agree
      | some column =>
          obtain ⟨member, covers⟩ := Header.mem_available (List.mem_of_find?_eq_some isFound.symm)
          refine (read_local agree indexed member covers leaf).bind ?_
          rintro program - between after rfl - - agree
          exact LocalAt.pure (setSteps_moved target property.name (some program)).symm agree
  | none =>
      refine (fresh_local agree).bind ?_
      rintro existing - between after rfl - - agree
      refine (member_local recursing property.name property.target (some existing) agree).bind ?_
      rintro found - between after rfl - - agree
      cases found with
      | none => exact LocalAt.pure (renameSteps_nil _).symm agree
      | some value =>
          refine LocalAt.pure ?_ agree
          rw [StepsMoved, renameSteps_cons, setSteps_moved, Step.rename]
          rfl

include indexed recursing in
theorem setSink_local (target : Register) (property : Property)
    (agree : pass.Agree env site.scope offset other) :
    LocalAt env site.scope offset (StepsMoved offset) (setSink env recurse site target property)
      (setSink env recurse (site.moved offset) (target + offset) property) pass other := by
  refine (planSink_local indexed recursing property.target agree).bind ?_
  rintro found - between after rfl - - agree
  exact LocalAt.pure (setSteps_moved target property.name found).symm agree

theorem setEach_local {scope : Scope} {assign again : Property → Planning (List Step)}
    {properties : List Property}
    (each : ∀ property ∈ properties, ∀ {pass other : Pass}, pass.Agree env scope offset other →
      LocalAt env scope offset (StepsMoved offset) (assign property) (again property) pass other)
    (agree : pass.Agree env scope offset other) :
    LocalAt env scope offset (StepsMoved offset) (setEach assign properties)
      (setEach again properties) pass other := by
  induction properties generalizing pass other with
  | nil => exact LocalAt.pure (renameSteps_nil _).symm agree
  | cons property rest ih =>
      refine (each property (by simp) agree).bind ?_
      rintro first - between after rfl - - agree
      refine (ih (fun property member => each property (by simp [member])) agree).bind ?_
      rintro others - between after rfl - - agree
      exact LocalAt.pure (renameSteps_append _ _ _).symm agree

include indexed recursing in
theorem setProperties_local (target : Register) (agree : pass.Agree env site.scope offset other) :
    LocalAt env site.scope offset (StepsMoved offset) (setProperties env recurse site type target)
      (setProperties env recurse (site.moved offset) type (target + offset)) pass other := by
  refine (setEach_local (fun property _ _ _ =>
    setProperty_local indexed recursing target property) agree).bind ?_
  rintro plain - between after rfl - - agree
  refine (setEach_local (fun property _ _ _ =>
    setSink_local indexed recursing target property) agree).bind ?_
  rintro sinks - between after rfl - - agree
  exact LocalAt.pure (renameSteps_append _ _ _).symm agree

/-! ## Instances -/

include indexed recursing in
theorem planAssigned_local (start : Program) (agree : pass.Agree env site.scope offset other) :
    LocalAt env site.scope offset (IsMoved offset) (planAssigned env recurse site type start)
      (planAssigned env recurse (site.moved offset) type (start.moved offset)) pass other := by
  unfold planAssigned
  rw [moved_result]
  refine (setProperties_local _ indexed recursing start.result agree).bind ?_
  rintro assigns - between after rfl - - agree
  refine LocalAt.pure ?_ agree
  rw [IsMoved, moved_behind, moved_result]

include indexed recursing in
theorem planConcrete_local (factory : Option Factory)
    (agree : pass.Agree env site.scope offset other) :
    LocalAt env site.scope offset (IsMoved offset) (planConcrete env recurse site type factory)
      (planConcrete env recurse (site.moved offset) type factory) pass other := by
  refine (planInstance_local _ indexed recursing factory agree).bind ?_
  rintro start - between after rfl - - agree
  exact planAssigned_local _ indexed recursing start agree

include indexed recursing in
theorem planSingle_local (own : Option TypePolicy)
    (agree : pass.Agree env site.scope offset other) :
    LocalAt env site.scope offset (IsMoved offset) (planSingle env recurse site type own)
      (planSingle env recurse (site.moved offset) type own) pass other := by
  unfold planSingle
  refine (planInstance_local _ indexed recursing _ agree).bind ?_
  rintro create - between after rfl - - agree
  refine (reuseOrCreate_local site .object create agree).bind ?_
  rintro start - between after rfl - - agree
  exact planAssigned_local _ indexed recursing start agree

/-! ## Subtypes -/

/-- A branch with other registers, and what it has claimed from its start. -/
structure BranchMoved (env : Environment) (scope : Scope) (offset : Nat) (start others : Claims)
    (one another : Branch × Claims) : Prop where
  branch : another.1 = one.1.moved offset
  claims : Claims.Moved env.header scope start others one.2 another.2

variable {start others : Claims}

theorem branches_moved {scope : Scope} {branches more : List (Branch × Claims)}
    (each : List.Forall₂ (BranchMoved env scope offset start others) branches more) :
    more.map Prod.fst = (branches.map Prod.fst).map (Branch.moved offset) := by
  induction each with
  | nil => rfl
  | cons first rest ih => rw [List.map_cons, List.map_cons, List.map_cons, ih, first.branch]

include indexed recursing in
theorem planBranches_local (rules : List SubtypeCase)
    (starts : Claims.Moved env.header site.scope start others start others)
    (agree : pass.Agree env site.scope offset other)
    (here : Claims.AgreeOutside env.header site.scope start pass.claims)
    (there : Claims.AgreeOutside env.header site.scope others other.claims) :
    LocalAt env site.scope offset
      (List.Forall₂ (BranchMoved env site.scope offset start others))
      (planBranches env recurse site start rules)
      (planBranches env recurse (site.moved offset) others rules) pass other := by
  induction rules generalizing pass other with
  | nil => exact LocalAt.pure List.Forall₂.nil agree
  | cons rule rest ih =>
      refine (LocalAt.setClaims agree starts.sized starts.otherSized starts.within here.symm
        there.symm).bind ?_
      rintro _ _ between after - reset otherReset agree
      obtain rfl := gives_setClaims.mp reset
      obtain rfl := gives_setClaims.mp otherReset
      have planned := planConcrete_local rule.target.objectType indexed recursing
        rule.target.factory? agree
      refine planned.bind ?_
      rintro program - between after rfl given otherGiven agree
      have hereClaims := planned.here_given given
      have thereClaims := planned.there_given otherGiven
      refine LocalAt.claims ?_
      refine (ih agree hereClaims thereClaims).bind ?_
      rintro later more final otherFinal each - - last
      refine LocalAt.pure (List.Forall₂.cons ⟨rfl, ?_⟩ each) last
      exact ⟨agree.sized, agree.otherSized, agree.claims, hereClaims, thereClaims⟩

include indexed recursing in
theorem planFallback_local (own : TypePolicy) (agree : pass.Agree env site.scope offset other) :
    LocalAt env site.scope offset (IsMoved offset) (planFallback env recurse site type own)
      (planFallback env recurse (site.moved offset) type own) pass other := by
  unfold planFallback
  cases own.default with
  | some concrete => exact planConcrete_local _ indexed recursing none agree
  | none =>
      refine LocalAt.branch ?_ (planConcrete_local _ indexed recursing none agree)
      refine (fresh_local agree).bind ?_
      rintro into - between after rfl - - agree
      refine LocalAt.pure ?_ agree
      rw [IsMoved, Program.moved_single, Step.rename]

include indexed recursing in
theorem planPolymorphic_local (own : TypePolicy)
    (agree : pass.Agree env site.scope offset other) :
    LocalAt env site.scope offset (IsMoved offset) (planPolymorphic env recurse site type own)
      (planPolymorphic env recurse (site.moved offset) type own) pass other := by
  have starts : Claims.Moved env.header site.scope pass.claims other.claims pass.claims
      other.claims :=
    ⟨agree.sized, agree.otherSized, agree.claims, Claims.AgreeOutside.refl,
      Claims.AgreeOutside.refl⟩
  refine LocalAt.claims ?_
  have planned := planBranches_local indexed recursing own.subtypes starts agree starts.here
    starts.there
  refine planned.bind ?_
  rintro branches more between after each given otherGiven agree
  -- Every pass from here on has the claims of the start outside of the scope.
  have restored {γ δ : Type} {final : γ → δ → Prop} {first : Planning γ} {second : Planning δ}
      {pass₁ other₁ : Pass} {claims₁ claims₂ : Claims}
      (wanted : Claims.Moved env.header site.scope pass.claims other.claims claims₁ claims₂)
      (agree : pass₁.Agree env site.scope offset other₁)
      (here : Claims.AgreeOutside env.header site.scope pass.claims pass₁.claims)
      (there : Claims.AgreeOutside env.header site.scope other.claims other₁.claims)
      (rest : LocalAt env site.scope offset final first second
        { pass₁ with claims := claims₁ } { other₁ with claims := claims₂ }) :
      LocalAt env site.scope offset final (do setClaims claims₁; first)
        (do setClaims claims₂; second) pass₁ other₁ := by
    refine (LocalAt.setClaims agree wanted.sized wanted.otherSized wanted.within
      (here.symm.trans wanted.here) (there.symm.trans wanted.there)).bind ?_
    rintro _ _ between after - reset otherReset -
    obtain rfl := gives_setClaims.mp reset
    obtain rfl := gives_setClaims.mp otherReset
    exact rest
  refine restored starts agree (planned.here_given given) (planned.there_given otherGiven) ?_
  have again : Pass.Agree env site.scope offset { between with claims := pass.claims }
      { after with claims := other.claims } :=
    ⟨agree.registers, starts.sized, starts.otherSized, starts.within⟩
  have planned := planFallback_local type indexed recursing own again
  refine planned.bind ?_
  rintro fallback - between after rfl given otherGiven agree
  have fallen : Claims.Moved env.header site.scope pass.claims other.claims between.claims
      after.claims :=
    ⟨agree.sized, agree.otherSized, agree.claims, planned.here_given given,
      planned.there_given otherGiven⟩
  refine LocalAt.claims ?_
  refine (fresh_local agree).bind ?_
  rintro into - between after rfl given otherGiven agree
  obtain ⟨-, rfl⟩ := gives_fresh.mp given
  obtain ⟨-, rfl⟩ := gives_fresh.mp otherGiven
  have outcomes : List.Forall₂ (Claims.Moved env.header site.scope pass.claims other.claims)
      (branches.map Prod.snd ++ [between.claims]) (more.map Prod.snd ++ [after.claims]) := by
    refine List.rel_append ?_ (.cons fallen .nil)
    rw [List.forall₂_map_left_iff, List.forall₂_map_right_iff]
    exact each.imp fun _ _ moved => moved.claims
  have selected (into : Register) :
      Program.moved offset (Program.single (.select (branches.map Prod.fst) fallback into) into) =
        Program.single
          (.select (more.map Prod.fst) (fallback.moved offset) (into + offset))
          (into + offset) := by
    rw [Program.moved_single, Step.rename, renameBranches_eq, branches_moved each]
    rfl
  dsimp only [Site.moved]
  cases site.existing with
  | none =>
      have merged := starts.merged outcomes
      refine restored merged agree fallen.here fallen.there ?_
      exact LocalAt.pure (selected _).symm
        ⟨agree.registers, merged.sized, merged.otherSized, merged.within⟩
  | some existing =>
      refine restored starts agree fallen.here fallen.there ?_
      have again : Pass.Agree env site.scope offset
          { between.advanced with claims := pass.claims }
          { after.advanced with claims := other.claims } :=
        ⟨agree.registers, starts.sized, starts.otherSized, starts.within⟩
      have planned := planAssigned_local type indexed recursing (Program.keep existing) again
      rw [moved_keep] at planned
      refine planned.bind ?_
      rintro update - between after rfl given otherGiven agree
      have updated : Claims.Moved env.header site.scope pass.claims other.claims between.claims
          after.claims :=
        ⟨agree.sized, agree.otherSized, agree.claims, planned.here_given given,
          planned.there_given otherGiven⟩
      have merged := starts.merged (List.rel_append outcomes (.cons updated .nil))
      refine LocalAt.claims ?_
      refine (fresh_local agree).bind ?_
      rintro reused - between after rfl given otherGiven agree
      obtain ⟨-, rfl⟩ := gives_fresh.mp given
      obtain ⟨-, rfl⟩ := gives_fresh.mp otherGiven
      refine restored merged agree updated.here updated.there ?_
      refine LocalAt.pure ?_ ⟨agree.registers, merged.sized, merged.otherSized, merged.within⟩
      rw [IsMoved, Program.moved_single, Step.rename, ← Program.moved, ← Program.moved, selected]
      rfl

include indexed recursing in
theorem planObject_local : Local env offset (planObject env recurse) := by
  intro site pass other agree
  unfold planObject
  simp only [moved_target]
  cases site.target with
  | object declared =>
      have given {left right : Planning Program} {pass other : Pass}
          (planned : LocalAt env site.scope offset (IsMoved offset) left right pass other) :
          LocalAt env site.scope offset (MayBeMoved offset) (do pure (some (← left)))
            (do pure (some (← right))) pass other := by
        refine planned.bind ?_
        rintro program - between after rfl - - agree
        exact LocalAt.pure rfl agree
      refine (isAbsent_local agree rfl).bind ?_
      rintro absent - between after rfl - - agree
      refine LocalAt.branch (LocalAt.pure rfl agree) ?_
      cases env.settings.ofType? declared.name with
      | none => exact given (planSingle_local _ indexed recursing none agree)
      | some own =>
          exact LocalAt.branch (given (planSingle_local _ indexed recursing (some own) agree))
            (given (planPolymorphic_local _ indexed recursing own agree))
  | _ => exact LocalAt.pure rfl agree

end Objects

/-! ## Strategies -/

theorem orRelease_local {scope : Scope} {left right : Planning (Option Program)}
    (agree : pass.Agree env scope offset other)
    (local_ : LocalAt env scope offset (MayBeMoved offset) left right pass other) :
    LocalAt env scope offset (MayBeMoved offset) (orRelease left) (orRelease right) pass other := by
  refine LocalAt.claims (local_.bind ?_)
  rintro found - between after rfl given otherGiven later
  cases found with
  | some program => exact LocalAt.pure rfl later
  | none =>
      refine (LocalAt.setClaims later agree.sized agree.otherSized agree.claims
        (local_.here_given given).symm (local_.there_given otherGiven).symm).bind ?_
      rintro _ _ between after - - - agree
      exact LocalAt.pure rfl agree

theorem inOrder_local {planners : List Planner}
    (each : ∀ planner ∈ planners, Local env offset planner) :
    Local env offset fun site => inOrder site planners := by
  intro site pass other agree
  induction planners generalizing pass other with
  | nil => exact LocalAt.pure rfl agree
  | cons planner rest ih =>
      refine (orRelease_local agree (each planner (by simp) site pass other agree)).bind ?_
      rintro found - between after rfl - - agree
      cases found with
      | some program => exact LocalAt.pure rfl agree
      | none =>
          exact ih (fun planner member => each planner (by simp [member])) between after agree

theorem standard_local (indexed : env.header.WellIndexed) (levels : Nat) :
    Local env offset (standard env levels) := by
  induction levels with
  | zero =>
      intro site pass other agree
      exact LocalAt.throw _ agree
  | succ levels ih =>
      have reliable : Reliable env (standard env levels) := standard_reliable indexed levels
      refine inOrder_local fun planner member => ?_
      simp only [standardPlanners, List.mem_cons, List.not_mem_nil, or_false] at member
      rcases member with rfl | rfl | rfl | rfl | rfl | rfl | rfl
      · exact planUntypedMember_local indexed
      · exact planLeaf_local indexed
      · exact planTuple_local ih
      · exact planArray_local ih indexed reliable
      · exact planDictionary_local ih indexed
      · exact planSequence_local ih indexed reliable
      · exact planObject_local indexed ih

end Planning

end Unflatten
