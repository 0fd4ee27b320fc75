import Unflatten.Proofs.Planning.Outcome
import Unflatten.Proofs.Program.Blank
import Unflatten.Proofs.Reordering.Columns

/-!
# Planning in lockstep

Two actions go in lockstep if from passes that tally they come to passes that tally and either fail
alike or give values that are related. Programs are related that do the same to the registers, each
on its own row.
-/

set_option autoImplicit false

namespace Unflatten

/-! ## Steps that repeat others -/

/-- On the other row the steps do what these do on the row, within as many registers. -/
structure Repeats (row other : Row) (steps again : List Step) : Prop where
  span : stepsSpan again = stepsSpan steps
  runs : ∀ registers, runSteps other registers again = runSteps row registers steps

structure Program.Repeats (row other : Row) (program again : Program) : Prop where
  result : again.result = program.result
  steps : Unflatten.Repeats row other program.steps again.steps

section Repeats

variable {row other : Row} {left leftAgain right rightAgain : List Step}

theorem stepsSpan_append (left right : List Step) :
    stepsSpan (left ++ right) = max (stepsSpan left) (stepsSpan right) := by
  induction left with
  | nil => simp [stepsSpan]
  | cons step rest ih => rw [List.cons_append, stepsSpan, stepsSpan, ih, Nat.max_assoc]

theorem Repeats.nil : Repeats row other [] [] :=
  ⟨rfl, fun _ => rfl⟩

theorem Repeats.append (first : Repeats row other left leftAgain)
    (second : Repeats row other right rightAgain) :
    Repeats row other (left ++ right) (leftAgain ++ rightAgain) := by
  refine ⟨by rw [stepsSpan_append, stepsSpan_append, first.span, second.span], fun registers => ?_⟩
  rw [runSteps_append_bind, runSteps_append_bind, first.runs]
  exact congrArg _ (funext second.runs)

theorem Repeats.single {step again : Step} (span : again.span = step.span)
    (runs : ∀ registers, runStep other registers again = runStep row registers step) :
    Repeats row other [step] [again] := by
  refine ⟨by simp only [stepsSpan, span], fun registers => ?_⟩
  rw [runSteps_single, runSteps_single, runs]

theorem Repeats.cons {step again : Step} (first : Repeats row other [step] [again])
    (second : Repeats row other right rightAgain) :
    Repeats row other (step :: right) (again :: rightAgain) :=
  first.append second

theorem Repeats.refl_of {step : Step}
    (runs : ∀ registers, runStep other registers step = runStep row registers step) :
    Repeats row other [step] [step] :=
  Repeats.single rfl runs

theorem Program.Repeats.into {program again : Program}
    (repeats : Program.Repeats row other program again) (registers : Registers) (into : Register) :
    runInto other registers again into = runInto row registers program into := by
  obtain ⟨steps, result⟩ := program
  obtain ⟨stepsAgain, resultAgain⟩ := again
  obtain rfl : resultAgain = result := repeats.result
  rw [runInto, runInto, repeats.steps.runs]

theorem Program.Repeats.span {program again : Program}
    (repeats : Program.Repeats row other program again) :
    programSpan again = programSpan program := by
  obtain ⟨steps, result⟩ := program
  obtain ⟨stepsAgain, resultAgain⟩ := again
  obtain rfl : resultAgain = result := repeats.result
  rw [programSpan, programSpan, repeats.steps.span]

theorem Program.Repeats.keep (register : Register) :
    Program.Repeats row other (Program.keep register) (Program.keep register) :=
  ⟨rfl, Unflatten.Repeats.nil⟩

theorem Program.Repeats.single {step again : Step} {into : Register}
    (repeats : Unflatten.Repeats row other [step] [again]) :
    Program.Repeats row other (Program.single step into) (Program.single again into) :=
  ⟨rfl, repeats⟩

theorem Repeats.reuse {existing into : Register} {expectation : Expectation}
    {update updateAgain create createAgain : Program}
    (updates : Program.Repeats row other update updateAgain)
    (creates : Program.Repeats row other create createAgain) :
    Repeats row other [.reuse existing expectation update create into]
      [.reuse existing expectation updateAgain createAgain into] := by
  refine Repeats.single ?_ fun registers => ?_
  · rw [Step.span, Step.span, updates.span, creates.span]
  · rw [runStep, runStep, updates.into, creates.into]

theorem Repeats.flatMap {programs again : List Program}
    (each : List.Forall₂ (Program.Repeats row other) programs again) :
    Repeats row other (programs.flatMap ProgramOf.steps) (again.flatMap ProgramOf.steps) ∧
      again.map ProgramOf.result = programs.map ProgramOf.result := by
  induction each with
  | nil => exact ⟨Repeats.nil, rfl⟩
  | cons first _ ih =>
      rw [List.flatMap_cons, List.flatMap_cons, List.map_cons, List.map_cons]
      exact ⟨first.steps.append ih.1, by rw [first.result, ih.2]⟩

end Repeats

/-! ## Actions in lockstep -/

/-- Both outcomes are one failure, or values in the relation. -/
inductive Agrees {α β : Type} (related : α → β → Prop) :
    Except Failure α → Except Failure β → Prop where
  | ok {one : α} {other : β} (same : related one other) : Agrees related (.ok one) (.ok other)
  | error (failure : Failure) : Agrees related (.error failure) (.error failure)

structure Pass.Tally (header others : Header) (pass later : Pass) : Prop where
  registers : later.nextRegister = pass.nextRegister
  claims : Claims.Tally header others pass.claims later.claims

namespace Planning

def Lockstep (header others : Header) {α β : Type} (related : α → β → Prop) (left : Planning α)
    (right : Planning β) : Prop :=
  ∀ pass later, Pass.Tally header others pass later →
    Pass.Tally header others (left pass).2 (right later).2 ∧
      Agrees related (left pass).1 (right later).1

namespace Lockstep

variable {header others : Header} {α β γ δ : Type} {related : α → β → Prop}
variable {final : γ → δ → Prop} {left : Planning α} {right : Planning β}

theorem pure {one : α} {other : β} (same : related one other) :
    Lockstep header others related (Pure.pure one) (Pure.pure other) :=
  fun _ _ tally => ⟨tally, .ok same⟩

theorem throw (failure : Failure) :
    Lockstep header others related (MonadExcept.throw failure) (MonadExcept.throw failure) :=
  fun _ _ tally => ⟨tally, .error failure⟩

theorem bind {first : α → Planning γ} {second : β → Planning δ}
    (lockstep : Lockstep header others related left right)
    (continued : ∀ one other, related one other →
      Lockstep header others final (first one) (second other)) :
    Lockstep header others final (left >>= first) (right >>= second) := by
  intro pass later tally
  obtain ⟨passes, outcomes⟩ := lockstep pass later tally
  rw [bind_eq, bind_eq]
  cases leftDone : left pass with
  | mk one between =>
      cases rightDone : right later with
      | mk other after =>
          rw [leftDone, rightDone] at passes outcomes
          cases outcomes with
          | ok same => exact continued _ _ same between after passes
          | error failure => exact ⟨passes, .error failure⟩

theorem bindSame {left right : Planning α} {first second : α → Planning γ} {final : γ → γ → Prop}
    (lockstep : Lockstep header others Eq left right)
    (continued : ∀ value, Lockstep header others final (first value) (second value)) :
    Lockstep header others final (left >>= first) (right >>= second) :=
  bind lockstep fun one other same => by
    subst same
    exact continued one

theorem branch {condition : Prop} [Decidable condition] {secondLeft : Planning α}
    {secondRight : Planning β} (first : Lockstep header others related left right)
    (second : Lockstep header others related secondLeft secondRight) :
    Lockstep header others related (if condition then left else secondLeft)
      (if condition then right else secondRight) := by
  split
  · exact first
  · exact second

theorem fresh : Lockstep header others Eq fresh fresh := by
  intro pass later tally
  refine ⟨⟨?_, tally.claims⟩, .ok tally.registers.symm⟩
  exact congrArg (· + 1) tally.registers

theorem claims : Lockstep header others (Claims.Tally header others) claims claims :=
  fun _ _ tally => ⟨tally, .ok tally.claims⟩

theorem setClaims {marks again : Claims} (same : Claims.Tally header others marks again) :
    Lockstep header others Eq (setClaims marks) (setClaims again) :=
  fun _ _ tally => ⟨⟨tally.registers, same⟩, .ok rfl⟩

theorem orRelease {left right : Planning (Option Program)}
    {related : Program → Program → Prop}
    (lockstep : Lockstep header others (Option.Rel related) left right) :
    Lockstep header others (Option.Rel related) (Planning.orRelease left)
      (Planning.orRelease right) := by
  refine bind claims fun before again same => bind lockstep fun one other found => ?_
  cases found with
  | some repeats => exact pure (.some repeats)
  | none => exact bind (setClaims same) fun _ _ _ => pure .none

end Lockstep

end Planning

end Unflatten
