import Unflatten.Proofs.Program.StrictRun

/-!
# What a run leaves alone

A run of steps changes no register that the steps do not mention, and it never changes the size of
the register file.
-/

set_option autoImplicit false

namespace Unflatten

/-- The same size, and the same values but in some registers. -/
structure Registers.AgreeBut (registers finished : Registers) (changed : List Register) :
    Prop where
  size : finished.size = registers.size
  same : ∀ register, register ∉ changed → finished.get register = registers.get register

namespace Registers.AgreeBut

variable {registers between finished : Registers} {changed more : List Register}

theorem refl : registers.AgreeBut registers changed :=
  ⟨rfl, fun _ _ => rfl⟩

theorem trans (first : registers.AgreeBut between changed)
    (second : between.AgreeBut finished more) : registers.AgreeBut finished (changed ++ more) := by
  refine ⟨second.size.trans first.size, fun register missing => ?_⟩
  rw [List.mem_append, not_or] at missing
  rw [second.same register missing.2, first.same register missing.1]

theorem mono (agree : registers.AgreeBut finished changed)
    (wider : ∀ register ∈ changed, register ∈ more) : registers.AgreeBut finished more :=
  ⟨agree.size, fun register missing => agree.same register fun member =>
    missing (wider register member)⟩

theorem within {inner : List Register} {into : Register}
    (agree : registers.AgreeBut finished (inner ++ [into]))
    (wider : ∀ register ∈ inner, register ∈ more) (written : into ∈ more) :
    registers.AgreeBut finished more := by
  refine agree.mono fun register member => ?_
  rcases List.mem_append.mp member with member | member
  · exact wider register member
  · rw [List.mem_singleton.mp member]
    exact written

theorem write {register : Register} {value : Value} :
    registers.AgreeBut (registers.write register value) [register] := by
  refine ⟨size_write, fun other missing => ?_⟩
  rw [List.mem_singleton] at missing
  exact get_write_other missing

theorem take {register : Register} : registers.AgreeBut (registers.take register).2 [register] :=
  write

theorem takeAll {taken : List Register} :
    registers.AgreeBut (registers.takeAll taken).2 taken := by
  induction taken generalizing registers with
  | nil => exact refl
  | cons first rest ih => exact take.trans ih

theorem outcome {register : Register} {value : Except Failure Value}
    (wrote : writeOutcome registers register value = .ok finished) :
    registers.AgreeBut finished [register] := by
  unfold writeOutcome at wrote
  cases value with
  | error failure => cases wrote
  | ok value =>
      cases wrote
      exact write

theorem move {source into : Register} :
    registers.AgreeBut (registers.move source into) [source, into] :=
  take.trans write

end Registers.AgreeBut

mutual

theorem runStep_frame (row : Row) {registers finished : Registers} :
    ∀ step : Step, runStep row registers step = .ok finished →
      registers.AgreeBut finished step.registers
  | .read column conversion into, ran => by
    rw [runStep] at ran
    rw [Step.registers]
    exact Registers.AgreeBut.outcome ran
  | .constant value into, ran => by
    rw [runStep] at ran
    cases ran
    rw [Step.registers]
    exact Registers.AgreeBut.write
  | .construct type constructor arguments into, ran => by
    rw [runStep] at ran
    cases ran
    rw [Step.registers]
    exact Registers.AgreeBut.takeAll.trans Registers.AgreeBut.write
  | .produce factory into, ran => by
    rw [runStep] at ran
    rw [Step.registers]
    exact Registers.AgreeBut.outcome ran
  | .reuse existing expectation update create into, ran => by
    rw [runStep] at ran
    rw [Step.registers]
    split at ran
    · exact (runInto_frame row update into ran).within (by simp +contextual) (by simp)
    · exact (runInto_frame row create into ran).within (by simp +contextual) (by simp)
  | .project source field into, ran => by
    rw [runStep] at ran
    cases ran
    rw [Step.registers]
    exact Registers.AgreeBut.write.mono (by simp)
  | .assign target field source, ran => by
    rw [runStep] at ran
    cases ran
    rw [Step.registers]
    exact (Registers.AgreeBut.take.trans Registers.AgreeBut.write).mono (by simp)
  | .startSequence type into, ran => by
    rw [runStep] at ran
    rw [Step.registers]
    exact Registers.AgreeBut.outcome ran
  | .addItem type target item, ran => by
    rw [runStep] at ran
    cases ran
    rw [Step.registers]
    exact (Registers.AgreeBut.take.trans Registers.AgreeBut.write).mono (by simp)
  | .startMap type into, ran => by
    rw [runStep] at ran
    rw [Step.registers]
    exact Registers.AgreeBut.outcome ran
  | .addEntry type target key item, ran => by
    rw [runStep] at ran
    cases ran
    rw [Step.registers]
    exact (Registers.AgreeBut.take.trans Registers.AgreeBut.write).mono (by simp)
  | .pack form items into, ran => by
    rw [runStep] at ran
    cases ran
    rw [Step.registers]
    exact Registers.AgreeBut.takeAll.trans Registers.AgreeBut.write
  | .select branches fallback into, ran => by
    rw [runStep] at ran
    rw [Step.registers]
    split at ran
    · rename_i outcome chosen
      have branch := runBranches_frame row branches into (chosen.trans (congrArg some ran))
      exact branch.within (by simp +contextual) (by simp)
    · exact (runInto_frame row fallback into ran).within (by simp +contextual) (by simp)
  | .fail failure, ran => by
    rw [runStep] at ran
    cases ran

theorem runSteps_frame (row : Row) {registers finished : Registers} :
    ∀ steps : List Step, runSteps row registers steps = .ok finished →
      registers.AgreeBut finished (stepsRegisters steps)
  | [], ran => by
    cases ran
    exact Registers.AgreeBut.refl
  | step :: rest, ran => by
    rw [runSteps] at ran
    rw [stepsRegisters]
    split at ran
    · rename_i between first
      exact (runStep_frame row step first).trans (runSteps_frame row rest ran)
    · cases ran

theorem runInto_frame (row : Row) {registers finished : Registers} :
    ∀ (program : ProgramOf Step) (into : Register),
      runInto row registers program into = .ok finished →
      registers.AgreeBut finished (programRegisters program ++ [into])
  | ⟨steps, result⟩, into, ran => by
    rw [runInto] at ran
    rw [programRegisters, List.append_assoc]
    split at ran
    · rename_i between first
      cases ran
      exact (runSteps_frame row steps first).trans Registers.AgreeBut.move
    · cases ran

theorem runBranches_frame (row : Row) {registers finished : Registers} :
    ∀ (branches : List (BranchOf Step)) (into : Register),
      runBranches row registers branches into = some (.ok finished) →
      registers.AgreeBut finished (branchRegisters branches ++ [into])
  | [], into, ran => by
    rw [runBranches] at ran
    cases ran
  | ⟨accepts, label, program⟩ :: rest, into, ran => by
    rw [runBranches] at ran
    rw [branchRegisters]
    split at ran
    · have branch := runInto_frame row program into (Option.some.inj ran)
      exact branch.within (by simp +contextual) (by simp)
    · exact (runBranches_frame row rest into ran).within (by simp +contextual) (by simp)

end

/-! ## Runs in parts -/

theorem runSteps_append {row : Row} {registers finished : Registers} {left right : List Step} :
    runSteps row registers (left ++ right) = .ok finished ↔
      ∃ between, runSteps row registers left = .ok between ∧
        runSteps row between right = .ok finished := by
  induction left generalizing registers with
  | nil => simp [runSteps]
  | cons step rest ih =>
      rw [List.cons_append, runSteps, runSteps]
      cases runStep row registers step with
      | ok next => exact ih
      | error failure => simp

theorem runSteps_single {row : Row} {registers : Registers} {step : Step} :
    runSteps row registers [step] = runStep row registers step := by
  rw [runSteps]
  cases runStep row registers step with
  | ok next => rfl
  | error failure => rfl

end Unflatten
