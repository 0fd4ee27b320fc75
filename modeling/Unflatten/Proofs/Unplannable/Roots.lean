import Unflatten.Mapper
import Unflatten.Proofs.Planning.Closure
import Unflatten.Proofs.Planning.Instances

/-!
# Targets without a plan

The planners of the standard strategy handle no reference that is unbound, no nullable target of
more than one cell and no tuple with no slot or too many. Such a target is declined wherever it
stands. At the root this is reported, and nothing else is reported so: planning itself fails for
want of a constructor or for the depth of a target.
-/

set_option autoImplicit false

namespace Unflatten

/-- The standard strategy has a planner for the target, in which a reference is resolved. -/
def Target.isPlannable : Target → Bool
  | .reference _ => false
  | .nullable inner => inner.isLeaf
  | .tuple slots => !slots.isEmpty && decide (slots.length ≤ greatestArity)
  | _ => true

/-- A new value can be started; only sequence and dictionary types may need one that is there. -/
def Target.isStartable : Target → Bool
  | .sequence type => type.seed.isSome
  | .dictionary type => type.seed.isSome
  | _ => true

/-- The root is there without columns, other sites need one. -/
def Site.IsPresent (env : Environment) (site : Site) (pass : Pass) : Prop :=
  site.isRoot = true ∨ env.header.available pass.claims site.scope ≠ []

theorem Target.unplannable_cases {target : Target} (unplannable : target.isPlannable = false) :
    (∃ ref, target = .reference ref) ∨ (∃ inner, target = .nullable inner ∧ inner.leaf? = none) ∨
      ∃ slots, target = .tuple slots ∧ (slots.isEmpty || greatestArity < slots.length) = true := by
  cases target with
  | reference ref => exact Or.inl ⟨ref, rfl⟩
  | nullable inner =>
      have noLeaf := Option.isSome_eq_false_iff.mp unplannable
      exact Or.inr (Or.inl ⟨inner, rfl, Option.isNone_iff_eq_none.mp noLeaf⟩)
  | tuple slots =>
      refine Or.inr (Or.inr ⟨slots, rfl, ?_⟩)
      rw [isPlannable, Bool.and_eq_false_iff, Bool.not_eq_false', decide_eq_false_iff_not,
        Nat.not_le] at unplannable
      rwa [Bool.or_eq_true, decide_eq_true_eq]
  | _ => cases unplannable

/-- What planning fails for. -/
def Failure.isOfPlanning : Failure → Bool
  | .noUsableConstructor _ => true
  | .refusedConstructor _ _ => true
  | .shape (.tooDeep _) => true
  | _ => false

theorem ObjectTypeOf.chooseConstructor_isOfPlanning {type : ObjectType} {own : Option TypePolicy}
    {view : View} {settings : Settings} {failure : Failure}
    (refused : type.chooseConstructor own view settings = .error failure) :
    failure.isOfPlanning = true := by
  unfold chooseConstructor at refused
  split at refused
  · split at refused
    · cases refused
      rfl
    · cases refused
  · split at refused
    · cases refused
      rfl
    · split at refused
      · cases refused
      · cases refused
        rfl

namespace Planning

variable {env : Environment} {recurse : Planner} {site : Site} {pass next : Pass}

/-! ## Failures -/

def FailsInPlanning {α : Type} (action : Planning α) : Prop :=
  ∀ pass failure next, Fails action pass failure next → failure.isOfPlanning = true

theorem FailsInPlanning.of_ok {α : Type} {action : Planning α}
    (succeeds : ∀ pass, ∃ value next, action pass = (.ok value, next)) :
    FailsInPlanning action := by
  intro pass failure next failed
  obtain ⟨value, after, computed⟩ := succeeds pass
  exact absurd failed (not_fails computed)

theorem failsInPlanning_throw {α : Type} {failure : Failure}
    (isOfPlanning : failure.isOfPlanning = true) :
    FailsInPlanning (throw failure : Planning α) := by
  intro pass other next failed
  cases failed
  exact isOfPlanning

theorem failsInPlanning_bind {α β : Type} {first : Planning α} {rest : α → Planning β}
    (fails : FailsInPlanning first)
    (later : ∀ pass value next, Gives first pass value next → FailsInPlanning (rest value)) :
    FailsInPlanning (first >>= rest) := by
  intro pass failure next failed
  rcases fails_bind.mp failed with failed | ⟨value, between, given, failed⟩
  · exact fails pass failure next failed
  · exact later pass value between given between failure next failed

theorem failsInPlanning_closed (env : Environment) : Closed env fun _ => FailsInPlanning where
  pure := fun _ => .of_ok fun _ => ⟨_, _, rfl⟩
  fresh := .of_ok fun _ => ⟨_, _, rfl⟩
  claims := .of_ok fun _ => ⟨_, _, rfl⟩
  setClaims := fun _ => .of_ok fun _ => ⟨_, _, rfl⟩
  tooDeep := fun _ => failsInPlanning_throw rfl
  constructors := by
    intro site type
    refine failsInPlanning_bind (.of_ok fun _ => ⟨_, _, rfl⟩) fun _ view _ _ => ?_
    split
    · exact .of_ok fun _ => ⟨_, _, rfl⟩
    · rename_i failure refused
      exact failsInPlanning_throw (ObjectTypeOf.chooseConstructor_isOfPlanning refused)
  bind := fun fails later => failsInPlanning_bind fails fun _ value _ _ => later value
  attempt := by
    intro α β action rest fails later
    refine failsInPlanning_bind (.of_ok fun _ => ⟨_, _, rfl⟩) fun pass outcome next given => ?_
    refine later outcome fun failure isFailure _ => ?_
    rcases gives_attempt.mp given with ⟨value, isValue, -⟩ | ⟨thrown, same, failed⟩
    · cases isFailure.symm.trans isValue
    · cases isFailure.symm.trans same
      exact failsInPlanning_throw (fails pass failure next failed)

/-! ## Targets that are declined -/

theorem standardPlanners_unplannable (unplannable : site.target.isPlannable = false)
    (planner : Planner) (member : planner ∈ standardPlanners env recurse) :
    planner site = pure none := by
  obtain ⟨target, scope, existing, role⟩ := site
  simp only [standardPlanners, List.mem_cons, List.not_mem_nil, or_false] at member
  rcases Target.unplannable_cases unplannable with
    ⟨ref, rfl⟩ | ⟨inner, rfl, noLeaf⟩ | ⟨slots, rfl, arity⟩
  · rcases member with rfl | rfl | rfl | rfl | rfl | rfl | rfl <;> rfl
  · have noLeaf : (Target.nullable inner).leaf? = none := by rw [Target.leaf?, noLeaf]
    rcases member with rfl | rfl | rfl | rfl | rfl | rfl | rfl
    · rfl
    · rw [planLeaf]
      dsimp only
      rw [noLeaf]
    all_goals rfl
  · rcases member with rfl | rfl | rfl | rfl | rfl | rfl | rfl
    · rfl
    · rfl
    · rw [planTuple]
      dsimp only
      rw [if_pos arity]
    all_goals rfl

theorem standard_unplannable (unplannable : site.target.isPlannable = false) (levels : Nat) :
    standard env (levels + 1) site = pure none := by
  have declined {planners : List Planner}
      (each : ∀ planner ∈ planners, planner site = pure none) :
      inOrder site planners = pure none := by
    induction planners with
    | nil => rfl
    | cons planner rest ih =>
        rw [inOrder_skip (each planner (by simp))]
        exact ih fun other member => each other (by simp [member])
  exact declined (standardPlanners_unplannable unplannable)

/-! ## Targets that are planned -/

/-- From this pass the action does not decline. -/
def AnswersFrom (pass : Pass) (action : Planning (Option Program)) : Prop :=
  ∀ next, ¬ Gives action pass none next

namespace AnswersFrom

theorem bind {α : Type} {first : Planning α} {rest : α → Planning (Option Program)}
    (later : ∀ value next, Gives first pass value next → AnswersFrom next (rest value)) :
    AnswersFrom pass (first >>= rest) := by
  intro next given
  obtain ⟨value, between, first, given⟩ := gives_bind.mp given
  exact later value between first next given

theorem some (program : Program) : AnswersFrom pass (pure (some program)) :=
  fun _ given => by cases (gives_pure.mp given).1

theorem planned (action : Planning Program) :
    AnswersFrom pass (do pure (Option.some (← action))) :=
  bind fun program _ _ => some program

theorem unlessAbsent {there : Planning (Option Program)} (present : site.IsPresent env pass)
    (answers : AnswersFrom pass there) :
    AnswersFrom pass (do if ← isAbsent env site then pure none else there) := by
  refine bind fun absent next given => ?_
  obtain ⟨rfl, rfl⟩ := gives_isAbsent.mp given
  have isThere :
      (!site.isRoot && (env.header.available next.claims site.scope).isEmpty) = false := by
    rcases present with isRoot | offered
    · rw [isRoot, Bool.not_true, Bool.false_and]
    · rw [List.isEmpty_eq_false_iff.mpr offered, Bool.and_false]
  rw [isThere]
  exact answers

end AnswersFrom

section Present

variable (present : site.IsPresent env pass)
include present

theorem planLeaf_answers {leaf : Leaf} (isLeaf : site.target.leaf? = some leaf) :
    AnswersFrom pass (planLeaf env site) := by
  unfold planLeaf
  rw [isLeaf]
  refine AnswersFrom.bind fun columns next given => ?_
  obtain ⟨rfl, rfl⟩ := gives_available.mp given
  split
  · exact .planned _
  · rename_i empty
    rw [if_pos (present.resolve_right fun offered => offered (List.head?_eq_none_iff.mp empty))]
    exact .planned _

theorem planTuple_answers {slots : List Target} (isTuple : site.target = .tuple slots)
    (plannable : (Target.tuple slots).isPlannable = true) :
    AnswersFrom pass (planTuple env recurse site) := by
  have arity : ¬ (slots.isEmpty || greatestArity < slots.length) = true := by
    rw [Target.isPlannable, Bool.and_eq_true, Bool.not_eq_true', decide_eq_true_eq] at plannable
    simpa [plannable.1] using plannable.2
  unfold planTuple
  rw [isTuple]
  dsimp only
  rw [if_neg arity]
  exact .unlessAbsent present (.bind fun _ _ _ => .planned _)

theorem planItems_answers (type : Option SequenceType) (element : Target) :
    AnswersFrom pass (planItems env recurse site type element) :=
  .unlessAbsent present (.bind fun _ _ _ => .bind fun _ _ _ => .bind fun _ _ _ => .some _)

theorem planEntries_answers (type : Option DictionaryType) (value : Target) :
    AnswersFrom pass (planEntries env recurse site type value) :=
  .unlessAbsent present (.bind fun _ _ _ => .bind fun _ _ _ => .bind fun _ _ _ => .some _)

theorem planArray_answers {element : Target} (isArray : site.target = .array element) :
    AnswersFrom pass (planArray env recurse site) := by
  unfold planArray
  rw [isArray]
  refine .unlessAbsent present ?_
  split
  · exact .bind fun _ _ _ => .planned _
  · refine .bind fun found _ _ => ?_
    split
    · exact .planned _
    · exact .planned _

theorem planObject_answers {type : ObjectType} (isObject : site.target = .object type) :
    AnswersFrom pass (planObject env recurse site) := by
  unfold planObject
  rw [isObject]
  refine .unlessAbsent present ?_
  split
  · split
    · exact .planned _
    · exact .planned _
  · exact .planned _

theorem standardPlanners_plannable (plannable : site.target.isPlannable = true)
    (startable : site.target.isStartable = true ∨ site.existing.isSome = true) :
    ∃ planner ∈ standardPlanners env recurse, AnswersFrom pass (planner site) := by
  have leaf {leaf : Leaf} (isLeaf : site.target.leaf? = some leaf) :
      ∃ planner ∈ standardPlanners env recurse, AnswersFrom pass (planner site) :=
    ⟨planLeaf env, by simp [standardPlanners], planLeaf_answers present isLeaf⟩
  have started {α : Type} {seed : Option α}
      (startable : seed.isSome = true ∨ site.existing.isSome = true) :
      ¬ (seed.isNone && site.existing.isNone) = true := by
    rw [Bool.and_eq_true, Option.isNone_iff_eq_none, Option.isNone_iff_eq_none]
    rintro ⟨rfl, isNew⟩
    rw [isNew] at startable
    simp at startable
  cases isTarget : site.target with
  | scalar type => exact leaf (by rw [isTarget, Target.leaf?])
  | enum type => exact leaf (by rw [isTarget, Target.leaf?])
  | any => exact leaf (by rw [isTarget, Target.leaf?])
  | dynamic => exact leaf (by rw [isTarget, Target.leaf?])
  | nullable inner =>
      rw [isTarget] at plannable
      obtain ⟨found, isLeaf⟩ := Option.isSome_iff_exists.mp plannable
      exact leaf (by rw [isTarget, Target.leaf?, isLeaf])
  | object type =>
      exact ⟨planObject env recurse, by simp [standardPlanners],
        planObject_answers present isTarget⟩
  | reference ref =>
      rw [isTarget] at plannable
      cases plannable
  | list element =>
      refine ⟨planSequence env recurse, by simp [standardPlanners], ?_⟩
      unfold planSequence
      rw [isTarget]
      exact planItems_answers present _ _
  | sequence type =>
      refine ⟨planSequence env recurse, by simp [standardPlanners], ?_⟩
      rw [isTarget] at startable
      unfold planSequence
      rw [isTarget]
      dsimp only
      rw [if_neg (started startable)]
      exact planItems_answers present _ _
  | map value =>
      refine ⟨planDictionary env recurse, by simp [standardPlanners], ?_⟩
      unfold planDictionary
      rw [isTarget]
      exact planEntries_answers present _ _
  | dictionary type =>
      refine ⟨planDictionary env recurse, by simp [standardPlanners], ?_⟩
      rw [isTarget] at startable
      unfold planDictionary
      rw [isTarget]
      dsimp only
      rw [if_neg (started startable)]
      exact planEntries_answers present _ _
  | array element =>
      exact ⟨planArray env recurse, by simp [standardPlanners],
        planArray_answers present isTarget⟩
  | tuple slots =>
      rw [isTarget] at plannable
      exact ⟨planTuple env recurse, by simp [standardPlanners],
        planTuple_answers present isTarget plannable⟩

end Present

theorem inOrder_answers {planners : List Planner}
    (clean : ∀ planner ∈ planners, DeclinesCleanly planner)
    (one : ∃ planner ∈ planners, AnswersFrom pass (planner site)) :
    AnswersFrom pass (inOrder site planners) := by
  obtain ⟨planner, member, answers⟩ := one
  induction planners with
  | nil => cases member
  | cons first rest ih =>
      rw [inOrder]
      refine .bind fun found between given => ?_
      rcases orRelease_gives given with ⟨rfl, middle, declined, rfl⟩ | ⟨program, rfl, -⟩
      · rcases List.mem_cons.mp member with rfl | later
        · exact absurd declined (answers middle)
        · obtain rfl := clean first (by simp) declined
          exact ih (fun other isOther => clean other (by simp [isOther])) later
      · exact .some program

theorem standard_answers (present : site.IsPresent env pass)
    (plannable : site.target.isPlannable = true)
    (startable : site.target.isStartable = true ∨ site.existing.isSome = true) {levels : Nat} :
    AnswersFrom pass (standard env (levels + 1) site) :=
  inOrder_answers standardPlanners_decline
    (standardPlanners_plannable present plannable startable)

end Planning

/-! ## Roots -/

open Planning

variable {env : Environment} {target : Target}

/-- The plan of a target is refused for want of a planner exactly if no planner handles it,
whatever its members are. -/
theorem Plan.ofTarget_noPlan (name : String) :
    Plan.ofTarget .standard env target = .error (.noPlan name) ↔
      (target.resolve env.bindings).isPlannable = false ∧ target.typeName = name := by
  unfold Plan.ofTarget planWith
  constructor
  · intro refused
    cases plannable : (target.resolve env.bindings).isPlannable with
    | false =>
        rw [standard_unplannable plannable] at refused
        cases refused
        exact ⟨rfl, rfl⟩
    | true =>
        have answers : AnswersFrom ⟨Claims.none env.header, existingRegister + 1⟩
            (standard env (deepestLevel + 1) (Site.atRoot env.bindings target)) :=
          standard_answers (.inl rfl) plannable (.inr rfl)
        dsimp only at refused
        split at refused
        · cases refused
        · rename_i next declined
          exact absurd declined (answers next)
        · rename_i failure next failed
          cases refused
          have ofPlanning := closed_standard (failsInPlanning_closed env) _ _ _ _ failed
          cases ofPlanning
  · rintro ⟨unplannable, rfl⟩
    rw [standard_unplannable unplannable]
    rfl

end Unflatten
