import Unflatten.Proofs.Program.Outcomes
import Unflatten.Proofs.Program.Renaming

/-!
# Runs from nothing

What a program comes to on a file of nulls does not depend on which registers it uses, nor on the
size of the file. A program that starts a value and then changes it in its place comes to what the
changes make of the value, wherever the value is held.
-/

set_option autoImplicit false

namespace Unflatten

/-- What the result of a program holds at the end of a run, failure included. -/
def Program.outcome (row : Row) (registers : Registers) (program : Program) :
    Except Failure Value :=
  (runSteps row registers program.steps).map fun finished => finished.get program.result

/-- All registers hold null. -/
def Registers.Blank (registers : Registers) : Prop :=
  ∀ register, registers.get register = .null

section Blank

variable {row : Row} {registers others : Registers} {program : Program}

theorem Registers.size_start (count : Nat) (existing : Value) :
    (start count existing).size = count := by
  simp [start]

theorem Registers.start_get (count : Nat) (existing : Value) {register : Register}
    (other : register ≠ existingRegister) : (start count existing).get register = .null := by
  unfold start get
  rw [Array.getElem?_setIfInBounds_ne other.symm, Array.getElem?_replicate]
  split
  · rfl
  · rfl

theorem Registers.start_blank (count : Nat) : (start count .null).Blank := by
  intro register
  by_cases isExisting : register = existingRegister
  · unfold start get
    subst isExisting
    rw [Array.getElem?_setIfInBounds_self]
    split
    · rfl
    · rfl
  · exact start_get count .null isExisting

theorem Plan.run_outcome (plan : Plan) (existing : Value) :
    plan.run row existing =
      plan.program.outcome row (Registers.start plan.registerCount existing) := by
  unfold run Program.outcome
  cases runSteps row (Registers.start plan.registerCount existing) plan.program.steps with
  | ok finished => rfl
  | error failure => rfl

theorem runSteps_append_bind {left right : List Step} :
    runSteps row registers (left ++ right) =
      (runSteps row registers left).bind fun between => runSteps row between right := by
  induction left generalizing registers with
  | nil => rfl
  | cons step rest ih =>
      rw [List.cons_append, runSteps, runSteps]
      cases runStep row registers step with
      | ok next => exact ih
      | error failure => rfl

/-! ## Other registers -/

theorem Program.outcome_renamed (row : Row) (program : Program) {naming : Register → Register}
    {known : List Register} (follows : Registers.Follows naming known registers others)
    (within : ∀ register ∈ stepsRegisters program.steps, register ∈ known)
    (isResult : program.result ∈ known) :
    Program.outcome row others ⟨renameSteps naming program.steps, naming program.result⟩ =
      program.outcome row registers := by
  have mirrors := runSteps_rename row follows program.steps within
  unfold outcome
  generalize runSteps row registers program.steps = one at mirrors
  generalize runSteps row others (renameSteps naming program.steps) = another at mirrors
  cases mirrors with
  | error failure => rfl
  | ok finished => exact congrArg Except.ok (finished.same _ isResult)

theorem Program.outcome_moved {offset limit : Nat} (blank : registers.Blank)
    (otherBlank : others.Blank) (fits : limit ≤ registers.size)
    (otherFits : limit + offset ≤ others.size)
    (below : ∀ register ∈ stepsRegisters program.steps, register < limit)
    (isResult : program.result < limit) :
    (program.moved offset).outcome row others = program.outcome row registers := by
  have inside {register : Register}
      (member : register ∈ program.result :: stepsRegisters program.steps) : register < limit := by
    rcases List.mem_cons.mp member with rfl | member
    · exact isResult
    · exact below register member
  have follows : Registers.Follows (Register.further offset)
      (program.result :: stepsRegisters program.steps) registers others := by
    refine ⟨Register.further_injective offset, fun register _ => ?_, fun register member => ?_⟩
    · rw [blank register, otherBlank]
    · have small := inside member
      exact ⟨Nat.lt_of_lt_of_le small fits,
        Nat.lt_of_lt_of_le (Nat.add_lt_add_right small offset) otherFits⟩
  have renamed := outcome_renamed row program follows
    (fun register member => List.mem_cons_of_mem _ member) List.mem_cons_self
  obtain ⟨steps, result⟩ := program
  rw [← renamed, moved, renameProgram]

/-! ## Values that are changed in their place -/

theorem Program.outcome_filled {start : Program} {changes : List Step} {limit : Nat}
    (blank : registers.Blank) (fits : start.result + limit ≤ registers.size)
    (below : ∀ register ∈ stepsRegisters start.steps, register ≤ start.result)
    (some : 0 < limit) (within : ∀ register ∈ stepsRegisters changes, register < limit) :
    Program.outcome row registers
        ⟨start.steps ++ renameSteps (Register.further start.result) changes, start.result⟩ =
      (start.outcome row registers).bind fun value =>
        Program.outcome row (Registers.start limit value) ⟨changes, existingRegister⟩ := by
  unfold outcome
  rw [runSteps_append_bind]
  cases started : runSteps row registers start.steps with
  | error failure => rfl
  | ok between =>
      have frame := runSteps_frame row start.steps started
      have held : Register.further start.result existingRegister = start.result :=
        Nat.zero_add _
      have follows : Registers.Follows (Register.further start.result)
          (existingRegister :: stepsRegisters changes)
          (Registers.start limit (between.get start.result)) between := by
        refine ⟨Register.further_injective _, fun register _ => ?_, fun register member => ?_⟩
        · by_cases isExisting : register = existingRegister
          · rw [isExisting, Registers.get_start _ _ some, held]
          · have above : Register.further start.result register ∉ stepsRegisters start.steps := by
              intro member
              have small := below _ member
              rw [Register.further] at small
              exact isExisting (Nat.le_zero.mp (by lia))
            rw [frame.same _ above, blank, Registers.start_get _ _ isExisting]
        · have small : register < limit := by
            rcases List.mem_cons.mp member with rfl | member
            · exact some
            · exact within register member
          rw [Registers.size_start, frame.size, Register.further]
          refine ⟨small, ?_⟩
          lia
      have filled : Program.outcome row between
          ⟨renameSteps (Register.further start.result) changes, start.result⟩ =
            Program.outcome row (Registers.start limit (between.get start.result))
              ⟨changes, existingRegister⟩ := by
        have renamed := outcome_renamed row ⟨changes, existingRegister⟩ follows
          (fun register member => List.mem_cons_of_mem existingRegister member) List.mem_cons_self
        rwa [held] at renamed
      exact filled

/-! ## Programs within a step -/

theorem Program.outcome_within {step : Step} {into : Register}
    (ran : runStep row registers step = runInto row registers program into)
    (inside : into < registers.size) :
    (Program.single step into).outcome row registers = program.outcome row registers := by
  unfold outcome single
  rw [runSteps_single, ran]
  obtain ⟨steps, result⟩ := program
  rw [runInto]
  cases finished : runSteps row registers steps with
  | error failure => rfl
  | ok reached =>
      refine congrArg Except.ok (Registers.get_move ?_)
      rw [run_size finished]
      exact inside

theorem Program.outcome_reuse {existing into : Register} {expectation : Expectation}
    {update : Program} (absent : expectation.accepts (registers.get existing) = false)
    (inside : into < registers.size) :
    (Program.single (.reuse existing expectation update program into) into).outcome row registers =
      program.outcome row registers := by
  refine outcome_within ?_ inside
  rw [runStep, absent]
  rfl

theorem runBranches_eq (branches : List Branch) (into : Register) :
    runBranches row registers branches into =
      (branches.find? fun branch => branch.accepts row).map fun branch =>
        runInto row registers branch.program into := by
  induction branches with
  | nil => rw [runBranches, List.find?_nil, Option.map_none]
  | cons branch rest ih =>
      obtain ⟨accepts, label, program⟩ := branch
      rw [runBranches, List.find?_cons]
      dsimp only
      cases accepts row with
      | true => rfl
      | false => exact ih

theorem Program.outcome_select {branches : List Branch} {fallback : Program} {into : Register}
    (inside : into < registers.size) :
    (Program.single (.select branches fallback into) into).outcome row registers =
      match branches.find? fun branch => branch.accepts row with
      | some branch => Program.outcome row registers branch.program
      | none => fallback.outcome row registers := by
  cases chosen : branches.find? fun branch => branch.accepts row with
  | some branch =>
      refine outcome_within ?_ inside
      rw [runStep, runBranches_eq, chosen]
      rfl
  | none =>
      refine outcome_within ?_ inside
      rw [runStep, runBranches_eq, chosen]
      rfl

end Blank

end Unflatten
