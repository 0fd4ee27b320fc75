import Unflatten.Proofs.Planning.Planners
import Unflatten.Proofs.Program.StrictRun

/-!
# Plans read columns once and registers in order

The standard strategy claims each column that a plan reads, and no path of the plan reads one twice.
Its registers are written once, before they are needed, and are not needed again after their value
has been taken, so that a run never meets a null that stands for a missing value.
-/

set_option autoImplicit false

namespace Unflatten

open Planning

section Plans

variable {strategy : Strategy} {env : Environment} {target : Target} {plan : Plan}

theorem Plan.ofTarget_gives (made : Plan.ofTarget strategy env target = .ok plan) :
    ∃ final,
      Gives (planWith env deepestLevel strategy (Site.atRoot env.bindings target))
        ⟨Claims.none env.header, existingRegister + 1⟩ (some plan.program) final ∧
      final.nextRegister ≤ plan.registerCount := by
  unfold Plan.ofTarget at made
  simp only [] at made
  split at made
  · rename_i program final given
    cases made
    exact ⟨final, given, Nat.le_max_left _ _⟩
  · cases made
  · cases made

theorem Claims.isClaimed_none (header : Header) (column : Nat) :
    (Claims.none header).isClaimed column = false := by
  unfold isClaimed none
  rw [List.getElem?_replicate]
  split
  · rfl
  · rfl

theorem Plan.ofTarget_planned (indexed : env.header.WellIndexed)
    (made : Plan.ofTarget .standard env target = .ok plan) :
    ∃ final,
      Gives (planWith env deepestLevel .standard (Site.atRoot env.bindings target))
        ⟨Claims.none env.header, existingRegister + 1⟩ (some plan.program) final ∧
      Planned (some existingRegister) ⟨Claims.none env.header, existingRegister + 1⟩ plan.program
        final ∧
      final.nextRegister ≤ plan.registerCount := by
  obtain ⟨final, given, fits⟩ := Plan.ofTarget_gives made
  have sized : (Claims.none env.header).length = env.header.length :=
    Claims.length_none _
  have known : ∀ register, (Site.atRoot env.bindings target).existing = some register →
      register < existingRegister + 1 :=
    Register.known_existing rfl (Nat.lt_succ_self _)
  exact ⟨final, given, (standard_reliable indexed (deepestLevel + 1)).plans sized known given, fits⟩

theorem Plan.ofTarget_within (indexed : env.header.WellIndexed)
    (made : Plan.ofTarget .standard env target = .ok plan) :
    ∀ register ∈ existingRegister :: programRegisters plan.program,
      register < plan.registerCount := by
  obtain ⟨final, -, planned, fits⟩ := Plan.ofTarget_planned indexed made
  have begun : existingRegister < final.nextRegister := planned.block.onward.registers
  have within : ∀ register ∈ programRegisters plan.program, register < final.nextRegister := by
    intro register member
    obtain ⟨⟨steps, result⟩, count⟩ := plan
    rw [programRegisters] at member
    rcases List.mem_append.mp member with member | member
    · rcases planned.block.registers register member with used | ⟨-, given⟩
      · obtain rfl := List.mem_singleton.mp used
        exact begun
      · exact given
    · obtain rfl := List.mem_singleton.mp member
      exact planned.below
  rintro register (_ | ⟨_, member⟩)
  · exact Nat.lt_of_lt_of_le begun fits
  · exact Nat.lt_of_lt_of_le (within register member) fits

theorem Plan.ofTarget_allowed (indexed : env.header.WellIndexed)
    (made : Plan.ofTarget .standard env target = .ok plan) :
    Ledger.start.Allows plan.paths fun _ => True := by
  obtain ⟨final, -, planned, -⟩ := Plan.ofTarget_planned indexed made
  have ready : Ready ⟨Claims.none env.header, existingRegister + 1⟩ Ledger.start := by
    refine ⟨fun register free => ?_, by simp [Ledger.start]⟩
    have other : register ≠ existingRegister := Nat.ne_of_gt free
    simp [Ledger.start, other]
  have full : ∀ register ∈ (some existingRegister).toList,
      Ledger.start.content register = .full := by
    intro register member
    rw [Ledger.start_full]
    simpa using member
  refine (planned.block.runs Ledger.start ready full).along fun reached served => ?_
  have takes := Ledger.perform?_take.mpr ⟨served.full plan.program.result (by simp), rfl⟩
  exact Ledger.allows_single.mpr
    ⟨_, Ledger.performAll?_cons.mpr ⟨_, takes, rfl⟩, fun _ => trivial⟩

end Plans

/-! ## Shapes

A list of shapes, of which those with a radius are circles: its elements are planned again and
again, and each of them in two branches. -/

namespace Shapes

def circle : ObjectType :=
  ObjectTypeOf.declare 2 "Circle" false
    [{ name := "name", target := .scalar .string },
      { name := "radius", target := .scalar .float64 }] 12 []

def shape : ObjectType :=
  ObjectTypeOf.declare 1 "Shape" false [{ name := "name", target := .scalar .string }] 11 []

def hasRadius (row : Row) : Bool :=
  !(row.value 1).isNull

def settings : Settings where
  types := [("Shape", { subtypes := [⟨1, hasRadius, .type circle⟩] })]

def columns : List Column :=
  [Column.declare "Name" .string, Column.declare "radius" .float64]

def plan? : Except Failure Plan :=
  Plan.ofTarget .standard ⟨Header.ofColumns columns, settings, []⟩ (.list (.object shape))

theorem plan?_ok : ∃ plan, plan? = .ok plan := by
  have planned : plan?.isOk = true := by decide +kernel
  cases found : plan? with
  | ok plan => exact ⟨plan, rfl⟩
  | error failure =>
      rw [found] at planned
      cases planned

end Shapes

/-- The claims at the end are the columns that the program reads, no path reads a column twice, and
whoever declines a site leaves the claims as they were. -/
theorem Plan.ofTarget_claims_linear {columns : List Column} {settings : Settings}
    {bindings : Bindings} {target : Target} {plan : Plan}
    (made : Plan.ofTarget .standard ⟨Header.ofColumns columns, settings, bindings⟩ target =
      .ok plan) :
    (∀ path ∈ plan.paths, path.columns.Nodup) ∧
    (∃ final,
      planWith ⟨Header.ofColumns columns, settings, bindings⟩ deepestLevel .standard
          (Site.atRoot bindings target)
          ⟨Claims.none (Header.ofColumns columns), existingRegister + 1⟩ =
        (.ok (some plan.program), final) ∧
      ∀ column, final.claims.isClaimed column = true ↔ column ∈ programColumns plan.program) ∧
    ∀ (levels : Nat) (planner : Planner) (site : Site) (pass next : Pass),
      planner = standard ⟨Header.ofColumns columns, settings, bindings⟩ levels ∨
        planner ∈ standardPlanners ⟨Header.ofColumns columns, settings, bindings⟩
          (standard ⟨Header.ofColumns columns, settings, bindings⟩ levels) →
      planner site pass = (.ok none, next) → next.claims = pass.claims := by
  have indexed := Header.ofColumns_wellIndexed columns
  refine ⟨fun path member => ?_, ?_, ?_⟩
  · obtain ⟨final, performed, -⟩ := Plan.ofTarget_allowed indexed made path member
    exact (Ledger.columns_nodup performed).1
  · obtain ⟨final, given, planned, -⟩ := Plan.ofTarget_planned indexed made
    refine ⟨final, given, fun column => ?_⟩
    rw [planned.block.columns column, Claims.isClaimed_none, programColumns_eq]
    simp
  · rintro levels planner site pass next (rfl | member) declined
    · rw [standard_declines declined]
    · rw [standardPlanners_decline planner member declined]

theorem Shapes.claims_linear : ∃ plan, Shapes.plan? = .ok plan ∧
    (∀ path ∈ plan.paths, path.columns.Nodup) ∧
    (∃ final,
      planWith ⟨Header.ofColumns Shapes.columns, Shapes.settings, []⟩ deepestLevel .standard
          (Site.atRoot [] (.list (.object Shapes.shape)))
          ⟨Claims.none (Header.ofColumns Shapes.columns), existingRegister + 1⟩ =
        (.ok (some plan.program), final) ∧
      ∀ column, final.claims.isClaimed column = true ↔ column ∈ programColumns plan.program) := by
  obtain ⟨plan, made⟩ := Shapes.plan?_ok
  obtain ⟨once, claimed, -⟩ := Plan.ofTarget_claims_linear made
  exact ⟨plan, made, once, claimed⟩

/-- Every path of a plan uses its registers in order, and to run the plan strictly, without any
null for a missing value, comes to the same. -/
theorem Plan.ofTarget_disciplined {columns : List Column} {settings : Settings}
    {bindings : Bindings} {target : Target} {plan : Plan}
    (made : Plan.ofTarget .standard ⟨Header.ofColumns columns, settings, bindings⟩ target =
      .ok plan) :
    (∀ path ∈ plan.paths, Disciplined path.actions) ∧
    ∀ (row : Row) (existing : Value),
      plan.runStrict row existing = some (plan.run row existing) := by
  have indexed := Header.ofColumns_wellIndexed columns
  have allowed := Plan.ofTarget_allowed indexed made
  constructor
  · intro path member
    obtain ⟨final, performed, -⟩ := allowed path member
    exact Ledger.performed_disciplined performed
  · intro row existing
    exact Plan.runStrict_eq allowed (Plan.ofTarget_within indexed made) row existing

theorem Shapes.disciplined : ∃ plan, Shapes.plan? = .ok plan ∧
    (∀ path ∈ plan.paths, Disciplined path.actions) ∧
    ∀ (row : Row) (existing : Value),
      plan.runStrict row existing = some (plan.run row existing) := by
  obtain ⟨plan, made⟩ := Shapes.plan?_ok
  obtain ⟨ordered, same⟩ := Plan.ofTarget_disciplined made
  exact ⟨plan, made, ordered, same⟩

end Unflatten
