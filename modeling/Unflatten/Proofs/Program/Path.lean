import Unflatten.Program.Run

/-!
# Control paths

A control path is what one run of a program may do to columns and registers, in order. A reuse goes
on with its update or with its creation, a selection with one of its branches or its fallback, and
both then move the result. A path that fails ends there. `stepsColumns` and `stepsRegisters` collect
what occurs anywhere in a program, on whichever path.
-/

set_option autoImplicit false

namespace Unflatten

/-- `look` reads a register and leaves its value there, `amend` changes the value in its place, and
`take` moves it out. -/
inductive Action where
  | fetch (column : Nat)
  | write (register : Register)
  | look (register : Register)
  | amend (register : Register)
  | take (register : Register)
  deriving DecidableEq, Repr

namespace Action

def column? : Action → Option Nat
  | fetch column => some column
  | _ => none

/-- The register whose value the action needs. -/
def source? : Action → Option Register
  | look register | amend register | take register => some register
  | fetch _ | write _ => none

end Action

structure Path where
  actions : List Action
  fails : Bool := false
  deriving DecidableEq, Repr

namespace Path

def columns (path : Path) : List Nat :=
  path.actions.filterMap Action.column?

/-- The path and then one of the others, unless it fails. -/
def followedBy (path : Path) (others : List Path) : List Path :=
  if path.fails then [path]
  else others.map fun later => ⟨path.actions ++ later.actions, later.fails⟩

/-- One of the first paths and then one of the second. -/
def along (first second : List Path) : List Path :=
  first.flatMap fun path => path.followedBy second

end Path

mutual

def Step.paths : Step → List Path
  | .read column _ into => [⟨[.fetch column.index, .write into], false⟩]
  | .constant _ into => [⟨[.write into], false⟩]
  | .construct _ _ arguments into => [⟨arguments.map .take ++ [.write into], false⟩]
  | .produce _ into => [⟨[.write into], false⟩]
  | .reuse existing _ update create into =>
    Path.along [⟨[.look existing], false⟩] (intoPaths update into ++ intoPaths create into)
  | .project source _ into => [⟨[.look source, .write into], false⟩]
  | .assign target _ source => [⟨[.take source, .amend target], false⟩]
  | .startSequence _ into => [⟨[.write into], false⟩]
  | .addItem _ target item => [⟨[.take item, .amend target], false⟩]
  | .startMap _ into => [⟨[.write into], false⟩]
  | .addEntry _ target _ item => [⟨[.take item, .amend target], false⟩]
  | .pack _ items into => [⟨items.map .take ++ [.write into], false⟩]
  | .select branches fallback into => branchPaths branches into ++ intoPaths fallback into
  | .fail _ => [⟨[], true⟩]

def stepsPaths : List Step → List Path
  | [] => [⟨[], false⟩]
  | step :: rest => Path.along (Step.paths step) (stepsPaths rest)

/-- The paths of a program whose result is moved. -/
def intoPaths : ProgramOf Step → Register → List Path
  | ⟨steps, result⟩, into =>
    Path.along (stepsPaths steps) [⟨[.take result, .write into], false⟩]

def branchPaths : List (BranchOf Step) → Register → List Path
  | [], _ => []
  | ⟨_, _, program⟩ :: rest, into => intoPaths program into ++ branchPaths rest into

end

mutual

def Step.columns : Step → List Nat
  | .read column _ _ => [column.index]
  | .reuse _ _ update create _ => programColumns update ++ programColumns create
  | .select branches fallback _ => branchColumns branches ++ programColumns fallback
  | .constant .. | .construct .. | .produce .. | .project .. | .assign .. | .startSequence .. => []
  | .addItem .. | .startMap .. | .addEntry .. | .pack .. | .fail .. => []

def stepsColumns : List Step → List Nat
  | [] => []
  | step :: rest => Step.columns step ++ stepsColumns rest

def programColumns : ProgramOf Step → List Nat
  | ⟨steps, _⟩ => stepsColumns steps

def branchColumns : List (BranchOf Step) → List Nat
  | [] => []
  | ⟨_, _, program⟩ :: rest => programColumns program ++ branchColumns rest

end

mutual

def Step.registers : Step → List Register
  | .read _ _ into | .constant _ into | .produce _ into => [into]
  | .construct _ _ arguments into => arguments ++ [into]
  | .reuse existing _ update create into =>
    existing :: programRegisters update ++ programRegisters create ++ [into]
  | .project source _ into => [source, into]
  | .assign target _ source => [target, source]
  | .startSequence _ into | .startMap _ into => [into]
  | .addItem _ target item | .addEntry _ target _ item => [target, item]
  | .pack _ items into => items ++ [into]
  | .select branches fallback into =>
    branchRegisters branches ++ programRegisters fallback ++ [into]
  | .fail _ => []

def stepsRegisters : List Step → List Register
  | [] => []
  | step :: rest => Step.registers step ++ stepsRegisters rest

def programRegisters : ProgramOf Step → List Register
  | ⟨steps, result⟩ => stepsRegisters steps ++ [result]

def branchRegisters : List (BranchOf Step) → List Register
  | [] => []
  | ⟨_, _, program⟩ :: rest => programRegisters program ++ branchRegisters rest

end

/-- The paths of a plan, whose last action takes the result out. -/
def Plan.paths (plan : Plan) : List Path :=
  Path.along (stepsPaths plan.program.steps) [⟨[.take plan.program.result], false⟩]

/-! ## Programs one after the other -/

namespace Path

theorem along_empty (paths : List Path) : along paths [⟨[], false⟩] = paths := by
  induction paths with
  | nil => rfl
  | cons path rest ih =>
      have head : path.followedBy [⟨[], false⟩] = [path] := by
        obtain ⟨actions, fails⟩ := path
        cases fails <;> simp [followedBy]
      simp only [along, List.flatMap_cons, head] at ih ⊢
      rw [ih]
      rfl

theorem empty_along (paths : List Path) : along [⟨[], false⟩] paths = paths := by
  simp [along, followedBy]

theorem along_assoc (first second third : List Path) :
    along (along first second) third = along first (along second third) := by
  simp only [along, List.flatMap_assoc]
  congr 1
  funext path
  obtain ⟨actions, fails⟩ := path
  cases fails with
  | true => simp [followedBy]
  | false =>
      simp only [followedBy, List.flatMap_map, List.map_flatMap, Bool.false_eq_true, if_false]
      congr 1
      funext later
      obtain ⟨laterActions, laterFails⟩ := later
      cases laterFails <;> simp [List.append_assoc]

end Path

theorem stepsPaths_append (left right : List Step) :
    stepsPaths (left ++ right) = Path.along (stepsPaths left) (stepsPaths right) := by
  induction left with
  | nil => rw [List.nil_append, stepsPaths, Path.empty_along]
  | cons step rest ih => rw [List.cons_append, stepsPaths, stepsPaths, ih, Path.along_assoc]

theorem stepsPaths_single (step : Step) : stepsPaths [step] = step.paths := by
  rw [stepsPaths, stepsPaths, Path.along_empty]

theorem stepsColumns_append (left right : List Step) :
    stepsColumns (left ++ right) = stepsColumns left ++ stepsColumns right := by
  induction left with
  | nil => rfl
  | cons step rest ih => rw [List.cons_append, stepsColumns, stepsColumns, ih, List.append_assoc]

theorem stepsColumns_single (step : Step) : stepsColumns [step] = step.columns := by
  rw [stepsColumns, stepsColumns, List.append_nil]

theorem programColumns_eq (program : Program) :
    programColumns program = stepsColumns program.steps := by
  cases program
  rw [programColumns]

theorem stepsRegisters_append (left right : List Step) :
    stepsRegisters (left ++ right) = stepsRegisters left ++ stepsRegisters right := by
  induction left with
  | nil => rfl
  | cons step rest ih =>
      rw [List.cons_append, stepsRegisters, stepsRegisters, ih, List.append_assoc]

theorem stepsRegisters_single (step : Step) : stepsRegisters [step] = step.registers := by
  rw [stepsRegisters, stepsRegisters, List.append_nil]

theorem branchPaths_mem {branches : List Branch} {into : Register} {path : Path} :
    path ∈ branchPaths branches into ↔
      ∃ branch ∈ branches, path ∈ intoPaths branch.program into := by
  induction branches with
  | nil => simp [branchPaths]
  | cons branch rest ih =>
      obtain ⟨accepts, label, program⟩ := branch
      simp [branchPaths, ih]

theorem branchColumns_mem {branches : List Branch} {column : Nat} :
    column ∈ branchColumns branches ↔
      ∃ branch ∈ branches, column ∈ stepsColumns branch.program.steps := by
  induction branches with
  | nil => simp [branchColumns]
  | cons branch rest ih =>
      obtain ⟨accepts, label, steps, result⟩ := branch
      simp [branchColumns, programColumns, ih]

theorem branchRegisters_mem {branches : List Branch} {register : Register} :
    register ∈ branchRegisters branches ↔
      ∃ branch ∈ branches, register ∈ programRegisters branch.program := by
  induction branches with
  | nil => simp [branchRegisters]
  | cons branch rest ih =>
      obtain ⟨accepts, label, program⟩ := branch
      simp [branchRegisters, ih]

end Unflatten
