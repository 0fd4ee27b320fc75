import Unflatten.Proofs.Program.RunFrame

/-!
# Other registers

A program may use other registers as long as different registers stay different: run on files that
agree on the registers it mentions, the two programs fail alike, or leave files that agree again.
-/

set_option autoImplicit false

namespace Unflatten

/-! ## Renaming -/

mutual

def Step.rename (naming : Register → Register) : Step → Step
  | .read column conversion into => .read column conversion (naming into)
  | .constant value into => .constant value (naming into)
  | .construct type constructor arguments into =>
    .construct type constructor (arguments.map naming) (naming into)
  | .produce factory into => .produce factory (naming into)
  | .reuse existing expectation update create into =>
    .reuse (naming existing) expectation (renameProgram naming update)
      (renameProgram naming create) (naming into)
  | .project source field into => .project (naming source) field (naming into)
  | .assign target field source => .assign (naming target) field (naming source)
  | .startSequence type into => .startSequence type (naming into)
  | .addItem type target item => .addItem type (naming target) (naming item)
  | .startMap type into => .startMap type (naming into)
  | .addEntry type target key item => .addEntry type (naming target) key (naming item)
  | .pack form items into => .pack form (items.map naming) (naming into)
  | .select branches fallback into =>
    .select (renameBranches naming branches) (renameProgram naming fallback) (naming into)
  | .fail failure => .fail failure

def renameSteps (naming : Register → Register) : List Step → List Step
  | [] => []
  | step :: rest => Step.rename naming step :: renameSteps naming rest

def renameProgram (naming : Register → Register) : ProgramOf Step → ProgramOf Step
  | ⟨steps, result⟩ => ⟨renameSteps naming steps, naming result⟩

def renameBranches (naming : Register → Register) : List (BranchOf Step) → List (BranchOf Step)
  | [] => []
  | ⟨accepts, label, program⟩ :: rest =>
    ⟨accepts, label, renameProgram naming program⟩ :: renameBranches naming rest

end

section Renamed

variable (naming : Register → Register)

theorem renameSteps_eq (steps : List Step) :
    renameSteps naming steps = steps.map (Step.rename naming) := by
  induction steps with
  | nil => rfl
  | cons step rest ih => rw [renameSteps, ih, List.map_cons]

@[simp] theorem renameProgram_steps (program : Program) :
    (renameProgram naming program).steps = renameSteps naming program.steps := by
  cases program
  rw [renameProgram]

@[simp] theorem renameProgram_result (program : Program) :
    (renameProgram naming program).result = naming program.result := by
  cases program
  rw [renameProgram]

@[simp] theorem renameSteps_append (left right : List Step) :
    renameSteps naming (left ++ right) = renameSteps naming left ++ renameSteps naming right := by
  rw [renameSteps_eq, renameSteps_eq, renameSteps_eq, List.map_append]

@[simp] theorem renameSteps_cons (step : Step) (rest : List Step) :
    renameSteps naming (step :: rest) = step.rename naming :: renameSteps naming rest := by
  rw [renameSteps]

@[simp] theorem renameSteps_nil : renameSteps naming [] = [] := by
  rw [renameSteps]

theorem renameSteps_flatMap (items : List Program) :
    renameSteps naming (items.flatMap ProgramOf.steps) =
      (items.map (renameProgram naming)).flatMap ProgramOf.steps := by
  induction items with
  | nil => rfl
  | cons item rest ih => simp [ih]

end Renamed

def Register.further (offset : Nat) (register : Register) : Register :=
  register + offset

theorem Register.further_injective (offset : Nat) : Function.Injective (further offset) :=
  fun _ _ same => Nat.add_right_cancel same

/-- The program with registers so much further on. -/
def Program.moved (offset : Nat) (program : Program) : Program :=
  renameProgram (Register.further offset) program

theorem Program.moved_single {offset : Nat} (step : Step) (result : Register) :
    (Program.single step result).moved offset =
      Program.single (step.rename (Register.further offset)) (result + offset) := by
  rw [Program.moved, Program.single, renameProgram, renameSteps_cons, renameSteps_nil]
  rfl

/-! ## Files that agree -/

/-- Both outcomes are the same failure, or both are values in the relation. -/
inductive Mirrors {α β : Type} (related : α → β → Prop) :
    Except Failure α → Except Failure β → Prop where
  | ok {one : α} {other : β} (same : related one other) : Mirrors related (.ok one) (.ok other)
  | error (failure : Failure) : Mirrors related (.error failure) (.error failure)

/-- What the known registers hold is found under their other names. -/
structure Registers.Follows (naming : Register → Register) (known : List Register)
    (registers renamed : Registers) : Prop where
  injective : Function.Injective naming
  same : ∀ register ∈ known, renamed.get (naming register) = registers.get register
  inside : ∀ register ∈ known, register < registers.size ∧ naming register < renamed.size

namespace Registers.Follows

variable {naming : Register → Register} {known : List Register}
variable {registers renamed : Registers} {register source target into : Register}

theorem write (follows : Follows naming known registers renamed) (member : register ∈ known)
    (value : Value) :
    Follows naming known (registers.write register value)
      (renamed.write (naming register) value) := by
  refine ⟨follows.injective, fun other isKnown => ?_, fun other isKnown => ?_⟩
  · by_cases same : other = register
    · subst same
      rw [get_write_same (follows.inside other isKnown).1,
        get_write_same (follows.inside other isKnown).2]
    · rw [get_write_other same, get_write_other (follows.injective.ne same)]
      exact follows.same other isKnown
  · rw [size_write, size_write]
    exact follows.inside other isKnown

theorem take (follows : Follows naming known registers renamed) (member : register ∈ known) :
    (renamed.take (naming register)).1 = (registers.take register).1 ∧
      Follows naming known (registers.take register).2 (renamed.take (naming register)).2 :=
  ⟨follows.same register member, follows.write member .null⟩

theorem takeAll (follows : Follows naming known registers renamed) (taken : List Register)
    (members : ∀ register ∈ taken, register ∈ known) :
    (renamed.takeAll (taken.map naming)).1 = (registers.takeAll taken).1 ∧
      Follows naming known (registers.takeAll taken).2 (renamed.takeAll (taken.map naming)).2 := by
  induction taken generalizing registers renamed with
  | nil => exact ⟨rfl, follows⟩
  | cons first rest ih =>
      obtain ⟨value, emptied⟩ := follows.take (members first (by simp))
      obtain ⟨values, finished⟩ := ih emptied
        fun register member => members register (by simp [member])
      refine ⟨?_, finished⟩
      rw [List.map_cons, Registers.takeAll, Registers.takeAll]
      simp only [value, values]

theorem move (follows : Follows naming known registers renamed) (isSource : source ∈ known)
    (isInto : into ∈ known) :
    Follows naming known (registers.move source into)
      (renamed.move (naming source) (naming into)) := by
  obtain ⟨value, taken⟩ := follows.take isSource
  unfold Registers.move
  simp only [value]
  exact taken.write isInto _

theorem combine (follows : Follows naming known registers renamed) (isSource : source ∈ known)
    (isTarget : target ∈ known) (change : Value → Value → Value) :
    Follows naming known
      ((registers.take source).2.write target
        (change ((registers.take source).2.get target) (registers.take source).1))
      ((renamed.take (naming source)).2.write (naming target)
        (change ((renamed.take (naming source)).2.get (naming target))
          (renamed.take (naming source)).1)) := by
  obtain ⟨value, taken⟩ := follows.take isSource
  rw [value, taken.same target isTarget]
  exact taken.write isTarget _

theorem outcome (follows : Follows naming known registers renamed) (member : into ∈ known)
    (written : Except Failure Value) :
    Mirrors (Follows naming known) (writeOutcome registers into written)
      (writeOutcome renamed (naming into) written) := by
  cases written with
  | error failure => exact Mirrors.error failure
  | ok value => exact Mirrors.ok (follows.write member value)

end Registers.Follows

/-! ## Runs -/

section Runs

open Registers

variable {naming : Register → Register} (row : Row)

mutual

theorem runStep_rename {known : List Register} {registers renamed : Registers}
    (follows : Follows naming known registers renamed) :
    ∀ step : Step, (∀ register ∈ step.registers, register ∈ known) →
      Mirrors (Follows naming known) (runStep row registers step)
        (runStep row renamed (step.rename naming))
  | .read column conversion into, within => by
    rw [Step.rename, runStep, runStep]
    exact follows.outcome (within into (by simp [Step.registers])) _
  | .constant value into, within => by
    rw [Step.rename, runStep, runStep]
    exact Mirrors.ok (follows.write (within into (by simp [Step.registers])) value)
  | .construct type constructor arguments into, within => by
    obtain ⟨values, taken⟩ := follows.takeAll arguments
      fun register member => within register (by simp [Step.registers, member])
    rw [Step.rename, runStep, runStep]
    simp only [values]
    exact Mirrors.ok (taken.write (within into (by simp [Step.registers])) _)
  | .produce factory into, within => by
    rw [Step.rename, runStep, runStep]
    exact follows.outcome (within into (by simp [Step.registers])) _
  | .reuse existing expectation update create into, within => by
    have held := follows.same existing (within existing (by simp [Step.registers]))
    have isInto := within into (by simp [Step.registers])
    rw [Step.rename, runStep, runStep, held]
    split
    · exact runInto_rename follows update into isInto
        fun register member => within register (by simp [Step.registers, member])
    · exact runInto_rename follows create into isInto
        fun register member => within register (by simp [Step.registers, member])
  | .project source field into, within => by
    have held := follows.same source (within source (by simp [Step.registers]))
    rw [Step.rename, runStep, runStep, held]
    exact Mirrors.ok (follows.write (within into (by simp [Step.registers])) _)
  | .assign target field source, within => by
    rw [Step.rename, runStep, runStep]
    exact Mirrors.ok (follows.combine (within source (by simp [Step.registers]))
      (within target (by simp [Step.registers])) fun held value => held.setField field value)
  | .startSequence type into, within => by
    rw [Step.rename, runStep, runStep]
    exact follows.outcome (within into (by simp [Step.registers])) _
  | .addItem type target item, within => by
    rw [Step.rename, runStep, runStep]
    exact Mirrors.ok (follows.combine (within item (by simp [Step.registers]))
      (within target (by simp [Step.registers])) (Unflatten.addItem type))
  | .startMap type into, within => by
    rw [Step.rename, runStep, runStep]
    exact follows.outcome (within into (by simp [Step.registers])) _
  | .addEntry type target key item, within => by
    rw [Step.rename, runStep, runStep]
    exact Mirrors.ok (follows.combine (within item (by simp [Step.registers]))
      (within target (by simp [Step.registers])) fun held value => insertItem type held key value)
  | .pack form items into, within => by
    obtain ⟨values, taken⟩ := follows.takeAll items
      fun register member => within register (by simp [Step.registers, member])
    rw [Step.rename, runStep, runStep]
    simp only [values]
    exact Mirrors.ok (taken.write (within into (by simp [Step.registers])) _)
  | .select branches fallback into, within => by
    have isInto := within into (by simp [Step.registers])
    have chosen := runBranches_rename follows branches into isInto
      fun register member => within register (by simp [Step.registers, member])
    rw [Step.rename, runStep, runStep]
    rcases chosen with ⟨none, noneRenamed⟩ | ⟨one, other, some, someRenamed, mirrors⟩
    · rw [none, noneRenamed]
      exact runInto_rename follows fallback into isInto
        fun register member => within register (by simp [Step.registers, member])
    · rw [some, someRenamed]
      exact mirrors
  | .fail failure, within => by
    rw [Step.rename, runStep, runStep]
    exact Mirrors.error failure

theorem runSteps_rename {known : List Register} {registers renamed : Registers}
    (follows : Follows naming known registers renamed) :
    ∀ steps : List Step, (∀ register ∈ stepsRegisters steps, register ∈ known) →
      Mirrors (Follows naming known) (runSteps row registers steps)
        (runSteps row renamed (renameSteps naming steps))
  | [], _ => Mirrors.ok follows
  | step :: rest, within => by
    have first := runStep_rename follows step
      fun register member => within register (by simp [stepsRegisters, member])
    rw [renameSteps, runSteps, runSteps]
    generalize runStep row registers step = one at first
    generalize runStep row renamed (step.rename naming) = other at first
    cases first with
    | error failure => exact Mirrors.error failure
    | ok between =>
        exact runSteps_rename between rest
          fun register member => within register (by simp [stepsRegisters, member])

theorem runInto_rename {known : List Register} {registers renamed : Registers}
    (follows : Follows naming known registers renamed) :
    ∀ (program : ProgramOf Step) (into : Register), into ∈ known →
      (∀ register ∈ programRegisters program, register ∈ known) →
      Mirrors (Follows naming known) (runInto row registers program into)
        (runInto row renamed (renameProgram naming program) (naming into))
  | ⟨steps, result⟩, into, isInto, within => by
    have ran := runSteps_rename follows steps
      fun register member => within register (by simp [programRegisters, member])
    rw [renameProgram, runInto, runInto]
    generalize runSteps row registers steps = one at ran
    generalize runSteps row renamed (renameSteps naming steps) = other at ran
    cases ran with
    | error failure => exact Mirrors.error failure
    | ok finished =>
        exact Mirrors.ok (finished.move
          (within result (by simp [programRegisters])) isInto)

theorem runBranches_rename {known : List Register} {registers renamed : Registers}
    (follows : Follows naming known registers renamed) :
    ∀ (branches : List (BranchOf Step)) (into : Register), into ∈ known →
      (∀ register ∈ branchRegisters branches, register ∈ known) →
      (runBranches row registers branches into = none ∧
          runBranches row renamed (renameBranches naming branches) (naming into) = none) ∨
        ∃ one other, runBranches row registers branches into = some one ∧
          runBranches row renamed (renameBranches naming branches) (naming into) = some other ∧
          Mirrors (Follows naming known) one other
  | [], into, _, _ => Or.inl ⟨by rw [runBranches], by rw [renameBranches, runBranches]⟩
  | ⟨accepts, label, program⟩ :: rest, into, isInto, within => by
    rw [renameBranches, runBranches, runBranches]
    split
    · exact Or.inr ⟨_, _, rfl, rfl, runInto_rename follows program into isInto
        fun register member => within register (by simp [branchRegisters, member])⟩
    · exact runBranches_rename follows rest into isInto
        fun register member => within register (by simp [branchRegisters, member])

end

end Runs

end Unflatten
