import Unflatten.Proofs.Planning.Assembly
import Unflatten.Proofs.Planning.LocalObjects
import Unflatten.Proofs.Program.Blank

/-!
# Branches are planned like root targets

A branch for a type is planned from the claims that the root started from, like the type itself as
a root target, so both have the same programs for the arguments and the properties, with other
registers. On a file of nulls they come to the same.
-/

set_option autoImplicit false

namespace Unflatten.Planning

variable {env : Environment} {recurse : Planner} {site other : Site} {type : ObjectType}
variable {pass next : Pass} {program : Program}

/-! ## Instances depend on the scope of a site only -/

theorem planArguments_scope (same : other.scope = site.scope) (parameters : List Parameter) :
    planArguments env recurse other parameters = planArguments env recurse site parameters := by
  obtain ⟨target, scope, existing, role⟩ := site
  obtain ⟨otherTarget, otherScope, otherExisting, otherRole⟩ := other
  subst same
  induction parameters with
  | nil => rfl
  | cons parameter rest ih =>
      rw [planArguments, planArguments, ih]
      rfl

theorem planInstance_scope (same : other.scope = site.scope) (factory : Option Factory) :
    planInstance env recurse other type factory = planInstance env recurse site type factory := by
  have chosen : chooseConstructor env other type = chooseConstructor env site type := by
    rw [chooseConstructor, chooseConstructor, same]
  unfold planInstance
  simp only [chosen, planArguments_scope same]

theorem setProperties_scope (same : other.scope = site.scope) (target : Register) :
    setProperties env recurse other type target = setProperties env recurse site type target := by
  obtain ⟨place, scope, existing, role⟩ := site
  obtain ⟨otherPlace, otherScope, otherExisting, otherRole⟩ := other
  subst same
  rfl

theorem planAssigned_scope (same : other.scope = site.scope) (start : Program) :
    planAssigned env recurse other type start = planAssigned env recurse site type start := by
  rw [planAssigned, planAssigned, setProperties_scope same]

theorem planConcrete_scope (same : other.scope = site.scope) (factory : Option Factory) :
    planConcrete env recurse other type factory = planConcrete env recurse site type factory := by
  unfold planConcrete
  simp only [planInstance_scope same, planAssigned_scope same]

theorem planBranches_scope (same : other.scope = site.scope) (start : Claims)
    (rules : List SubtypeCase) :
    planBranches env recurse other start rules = planBranches env recurse site start rules := by
  induction rules with
  | nil => rfl
  | cons rule rest ih =>
      unfold planBranches
      simp only [planConcrete_scope same, ih]

/-! ## Objects depend on the scope and on the existing value -/

section Objects

variable (same : other.scope = site.scope) (there : other.existing = site.existing)
include same

theorem planFallback_scope (own : TypePolicy) :
    planFallback env recurse other type own = planFallback env recurse site type own := by
  unfold planFallback
  simp only [planConcrete_scope same]

include there

theorem planSingle_scope (own : Option TypePolicy) :
    planSingle env recurse other type own = planSingle env recurse site type own := by
  have reused : reuseOrCreate other = reuseOrCreate site := by
    unfold reuseOrCreate
    rw [there]
  unfold planSingle
  simp only [planInstance_scope same, planAssigned_scope same, reused]

theorem planPolymorphic_scope (own : TypePolicy) :
    planPolymorphic env recurse other type own = planPolymorphic env recurse site type own := by
  unfold planPolymorphic
  simp only [planBranches_scope same, planFallback_scope same, planAssigned_scope same, there]

end Objects

theorem planInstance_policy :
    planInstance env recurse site type
        ((env.settings.ofType? type.name).bind TypePolicy.factory) =
      planInstance env recurse site type none := by
  simp only [planInstance, Option.or_self, Option.none_or]

theorem planInstance_ends {factory : Option Factory}
    (given : Gives (planInstance env recurse site type factory) pass program next) :
    next.nextRegister = program.result + 1 := by
  rcases planInstance_gives given with ⟨_, -, rfl, rfl⟩ | ⟨-, _, _, _, -, -, rfl, rfl⟩
  · rfl
  · rfl

theorem reuse_given {existing : Register} (isThere : site.existing = some existing)
    (create : Program) (pass : Pass) :
    Gives (reuseOrCreate site .object create) pass
      (Program.single
        (.reuse existing .object (Program.keep existing) create pass.nextRegister)
        pass.nextRegister)
      pass.advanced := by
  unfold reuseOrCreate
  rw [isThere]
  exact gives_bind.mpr ⟨_, _, gives_fresh.mpr ⟨rfl, rfl⟩, gives_pure.mpr ⟨rfl, rfl⟩⟩

theorem planSingle_made {own : Option TypePolicy} {create started : Program}
    {middle between : Pass} {assigns : List Step}
    (isOwn : own.bind TypePolicy.factory =
      (env.settings.ofType? type.name).bind TypePolicy.factory)
    (isType : concreteOf type own = type)
    (created : Gives (planInstance env recurse site type none) pass create middle)
    (starts : Gives (reuseOrCreate site .object create) middle started between)
    (set : Gives (setProperties env recurse site type started.result) between assigns next) :
    Gives (planSingle env recurse site type own) pass ⟨started.steps ++ assigns, started.result⟩
      next := by
  have instanced : Gives (planInstance env recurse site (concreteOf type own)
      (own.bind TypePolicy.factory)) pass create middle := by
    rw [isType, isOwn, planInstance_policy]
    exact created
  have assigned : Gives (setProperties env recurse site (concreteOf type own) started.result)
      between assigns next := by
    rw [isType]
    exact set
  refine gives_bind.mpr ⟨_, _, instanced, gives_bind.mpr ⟨_, _, starts, ?_⟩⟩
  exact gives_bind.mpr ⟨_, _, assigned, gives_pure.mpr ⟨rfl, rfl⟩⟩

/-! ## Branches -/

/-- An instance that is made since none exists, with its properties set, and one that is made by
itself with other registers. -/
theorem outcome_beside {row : Row} {registers others : Registers} {create : Program}
    {changes : List Step} {offset : Nat} {claims : Claims} {middle last : Pass}
    (blank : registers.Blank) (otherBlank : others.Blank)
    (creates : Planned none ⟨claims, existingRegister + 1⟩ create middle)
    (ends : middle.nextRegister + offset = (create.moved offset).result + 1)
    (below : ∀ register ∈ stepsRegisters (create.moved offset).steps,
      register ≤ (create.moved offset).result)
    (changing : Block [existingRegister] [existingRegister]
      ⟨middle.claims, existingRegister + 1⟩ changes last)
    (fits : middle.nextRegister + last.nextRegister ≤ registers.size)
    (otherFits : (create.moved offset).result + last.nextRegister ≤ others.size) :
    Program.outcome row registers
        ⟨(Program.single
            (.reuse existingRegister .object (Program.keep existingRegister) create
              middle.nextRegister) middle.nextRegister).steps ++
          renameSteps (Register.further middle.nextRegister) changes, middle.nextRegister⟩ =
      Program.outcome row others
        ⟨(create.moved offset).steps ++
          renameSteps (Register.further (create.moved offset).result) changes,
          (create.moved offset).result⟩ := by
  have some : 0 < last.nextRegister := changing.onward.registers
  have within : ∀ register ∈ stepsRegisters changes, register < last.nextRegister := by
    intro register member
    rcases changing.registers register member with known | ⟨-, high⟩
    · rw [List.mem_singleton.mp known]
      exact some
    · exact high
  have owned : ∀ register ∈ stepsRegisters create.steps, register < middle.nextRegister := by
    intro register member
    rcases creates.block.registers register member with known | ⟨-, high⟩
    · exact absurd known (by simp)
    · exact high
  have started : (Program.single
      (.reuse existingRegister .object (Program.keep existingRegister) create middle.nextRegister)
      middle.nextRegister).outcome row registers = (create.moved offset).outcome row others := by
    have absent : Expectation.object.accepts (registers.get existingRegister) = false := by
      rw [blank]
      rfl
    rw [Program.outcome_reuse absent (by lia)]
    exact (Program.outcome_moved blank otherBlank (by lia) (by lia) owned creates.below).symm
  have belowHere : ∀ register ∈ stepsRegisters (Program.single
      (.reuse existingRegister .object (Program.keep existingRegister) create middle.nextRegister)
      middle.nextRegister).steps, register ≤ middle.nextRegister := by
    intro register member
    have result := creates.below
    obtain ⟨steps, created⟩ := create
    simp only [Program.single, Program.keep, stepsRegisters_single, Step.registers,
      programRegisters, stepsRegisters, List.nil_append, List.mem_append, List.mem_cons,
      List.not_mem_nil, or_false] at member
    rcases member with ((rfl | rfl) | member | rfl) | rfl
    · exact Nat.zero_le _
    · exact Nat.zero_le _
    · exact Nat.le_of_lt (owned register member)
    · exact Nat.le_of_lt result
    · exact Nat.le_refl _
  calc
    _ = _ := Program.outcome_filled blank fits belowHere some within
    _ = _ := by rw [started]
    _ = _ := (Program.outcome_filled otherBlank otherFits below some within).symm

section Branches

variable {levels : Nat} {claims : Claims} {start : Register}

theorem setProperties_anywhere (indexed : env.header.WellIndexed) (levels : Nat)
    (type : ObjectType) {target : Register}
    (agree : Pass.Agree env site.scope target ⟨claims, existingRegister + 1⟩ pass) :
    LocalAt env site.scope target (StepsMoved target)
      (setProperties env (standard env levels) site type existingRegister)
      (setProperties env (standard env levels) site type target)
      ⟨claims, existingRegister + 1⟩ pass := by
  have sets := setProperties_local type indexed (standard_local indexed levels) existingRegister
    agree
  have same : existingRegister + target = target := Nat.zero_add _
  rw [@setProperties_scope _ _ site (site.moved _) _ rfl] at sets
  rwa [same] at sets

/-- What a branch plans for a type is what the type alone is planned as: on files of nulls the
programs come to the same. -/
theorem planConcrete_single (indexed : env.header.WellIndexed) (same : other.scope = site.scope)
    (isThere : other.existing = some existingRegister)
    (sized : claims.length = env.header.length) (started : existingRegister + 1 ≤ start)
    (given : Gives (planConcrete env (standard env levels) site type none) ⟨claims, start⟩ program
      next)
    {own : Option TypePolicy} (isOwn : own.bind TypePolicy.factory =
      (env.settings.ofType? type.name).bind TypePolicy.factory)
    (isType : concreteOf type own = type) :
    ∃ single last,
      Gives (planSingle env (standard env levels) other type own)
        ⟨claims, existingRegister + 1⟩ single last ∧
      ∀ (row : Row) (registers others : Registers), registers.Blank → others.Blank →
        last.nextRegister ≤ registers.size → next.nextRegister ≤ others.size →
        single.outcome row registers = program.outcome row others := by
  have reliable : Reliable env (standard env levels) := standard_reliable indexed levels
  obtain ⟨offset, rfl⟩ := Nat.exists_eq_add_of_le started
  obtain ⟨branch, middle, created, assigned⟩ := planConcrete_gives given
  obtain ⟨assigns, set, rfl⟩ := planAssigned_gives assigned
  rw [← planInstance_scope same] at created
  rw [← setProperties_scope same] at set
  -- The instance is made on both sides, in the branch with registers that are so much further on.
  have starts : Pass.Agree env other.scope offset ⟨claims, existingRegister + 1⟩
      ⟨claims, existingRegister + 1 + offset⟩ :=
    ⟨rfl, sized, sized, fun _ _ _ => rfl⟩
  have creates := planInstance_local type indexed (standard_local indexed levels) none starts
  rw [@planInstance_scope _ _ other (other.moved _) _ rfl] at creates
  obtain ⟨create, after, createdHere, rfl, made⟩ := creates.gives_left created
  have here := planInstance_planned indexed reliable sized createdHere
  have there := planInstance_planned indexed reliable sized created
  have ends := planInstance_ends created
  -- Both sides set the properties as they would be set in register zero.
  have toBranch : Pass.Agree env other.scope (create.moved offset).result
      ⟨after.claims, existingRegister + 1⟩ middle :=
    ⟨by rw [ends, existingRegister, Nat.zero_add, Nat.add_comm], made.sized, made.otherSized,
      made.claims⟩
  have toSingle : Pass.Agree env other.scope after.nextRegister
      ⟨after.claims, existingRegister + 1⟩ after.advanced :=
    ⟨by rw [Pass.advanced, existingRegister, Nat.zero_add, Nat.add_comm], made.sized, made.sized,
      fun _ _ _ => rfl⟩
  obtain ⟨changes, last, setHere, rfl, behind⟩ :=
    (setProperties_anywhere indexed levels type toBranch).gives_left set
  obtain ⟨again, final, setAgain, rfl, behindToo⟩ :=
    (setProperties_anywhere indexed levels type toSingle).gives_right setHere
  have sizedHere : (Pass.mk after.claims (existingRegister + 1)).claims.length =
      env.header.length := made.sized
  have changing := setProperties_planned indexed reliable sizedHere (Nat.lt_succ_self _) setHere
  refine ⟨_, final, planSingle_made isOwn isType createdHere
    (reuse_given isThere create after) setAgain, ?_⟩
  intro row registers others blank otherBlank fits otherFits
  rw [behindToo.registers, Nat.add_comm] at fits
  rw [behind.registers, Nat.add_comm] at otherFits
  refine outcome_beside blank otherBlank here ?_ ?_ changing fits otherFits
  · rw [← ends, made.registers]
  · intro register member
    rcases there.block.registers register member with known | ⟨-, high⟩
    · exact absurd known (by simp)
    · rw [ends] at high
      exact Nat.le_of_lt_succ high

end Branches

end Unflatten.Planning
