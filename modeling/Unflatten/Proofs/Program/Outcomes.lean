import Unflatten.Proofs.Conformance.Runs

/-!
# Outcomes of runs

What a run leaves in a register, failure included: `Evaluates` says what the result of a program
comes to, `Alters` what steps make of the value in a register, and `Gathers` what several programs
give in turn. The outcome is `none` exactly if the run fails.
-/

set_option autoImplicit false

namespace Unflatten

/-- What a run leaves in a register, if it succeeds. -/
def runTo (row : Row) (registers : Registers) (steps : List Step) (register : Register) :
    Option Value :=
  (runSteps row registers steps).toOption.map fun finished => finished.get register

/-- Where there is no existing value, the result of every run is the outcome. -/
def Evaluates (row : Row) (existing : Option Register) (program : Program) (next : Pass)
    (outcome : Option Value) : Prop :=
  ∀ registers : Registers, next.nextRegister ≤ registers.size →
    (∀ register, existing = some register → registers.get register = .null) →
    runTo row registers program.steps program.result = outcome

def Alters (row : Row) (target : Register) (steps : List Step) (next : Pass) (before : Value)
    (outcome : Option Value) : Prop :=
  ∀ registers : Registers, next.nextRegister ≤ registers.size → registers.get target = before →
    runTo row registers steps target = outcome

/-- All values, if every program has one. -/
def gathered : List (Option Value) → Option (List Value)
  | [] => some []
  | outcome :: rest => outcome.bind fun value => (gathered rest).map fun values => value :: values

/-- Programs one after the other with their outcomes. -/
inductive Gathers (row : Row) : Pass → List Program → List (Option Value) → Pass → Prop where
  | nil {pass : Pass} : Gathers row pass [] [] pass
  | cons {pass middle next : Pass} {first : Program} {rest : List Program}
      {outcome : Option Value} {outcomes : List (Option Value)}
      (planned : Planned none pass first middle)
      (evaluates : Evaluates row none first middle outcome)
      (later : Gathers row middle rest outcomes next) :
      Gathers row pass (first :: rest) (outcome :: outcomes) next

section Rules

variable {row : Row} {registers : Registers} {existing : Option Register}
variable {program : Program} {target register : Register} {pass middle next : Pass}
variable {before : Value} {outcome : Option Value} {left right steps : List Step}

theorem runSteps_append_toOption :
    (runSteps row registers (left ++ right)).toOption =
      (runSteps row registers left).toOption.bind fun between =>
        (runSteps row between right).toOption := by
  cases first : runSteps row registers left with
  | error failure =>
      cases whole : runSteps row registers (left ++ right) with
      | error _ => rfl
      | ok finished =>
          obtain ⟨between, ran, -⟩ := runSteps_append.mp whole
          rw [first] at ran
          cases ran
  | ok between =>
      simp only [Except.toOption, Option.bind_some]
      cases second : runSteps row between right with
      | ok finished => rw [runSteps_append.mpr ⟨between, first, second⟩]
      | error failure =>
          cases whole : runSteps row registers (left ++ right) with
          | error _ => rfl
          | ok finished =>
              obtain ⟨other, ran, ranRest⟩ := runSteps_append.mp whole
              rw [first] at ran
              cases ran
              rw [second] at ranRest
              cases ranRest

theorem runTo_single {step : Step} {into : Register} {written : Except Failure Value}
    (writes : runStep row registers step = writeOutcome registers into written)
    (inside : into < registers.size) : runTo row registers [step] into = written.toOption := by
  unfold runTo
  rw [runSteps_single, writes]
  cases written with
  | error failure => rfl
  | ok value =>
      simp only [writeOutcome, Except.map, Except.toOption, Option.map_some]
      rw [Registers.get_write_same inside]

theorem runTo_eq_some {value : Value} :
    runTo row registers steps register = some value ↔
      ∃ finished, runSteps row registers steps = .ok finished ∧ finished.get register = value := by
  unfold runTo
  cases ran : runSteps row registers steps with
  | error failure => simp [Except.toOption]
  | ok finished => simp [Except.toOption]

theorem runTo_then {after : Option Value} (first : runTo row registers left target = outcome)
    (second : ∀ reached value, runSteps row registers left = .ok reached →
      reached.get target = value → outcome = some value →
      runTo row reached right register = after)
    (fails : outcome = none → after = none) :
    runTo row registers (left ++ right) register = after := by
  rw [runTo, runSteps_append_toOption]
  cases isOutcome : outcome with
  | none =>
      rw [isOutcome, runTo, Option.map_eq_none_iff] at first
      rw [first, fails isOutcome]
      rfl
  | some value =>
      rw [isOutcome] at first
      obtain ⟨reached, ran, isValue⟩ := runTo_eq_some.mp first
      rw [ran]
      exact second reached value ran isValue isOutcome

/-! ## Programs -/

theorem Evaluates.single {step : Step} {written : Except Failure Value}
    (writes : ∀ registers, runStep row registers step =
      writeOutcome registers pass.nextRegister written)
    (ends : next.nextRegister = pass.nextRegister + 1) :
    Evaluates row existing (Program.single step pass.nextRegister) next written.toOption := by
  intro registers fits _
  apply runTo_single (writes registers)
  lia

theorem Evaluates.filled {start : Program} {after : Option Value}
    (onward : middle.nextRegister ≤ next.nextRegister)
    (starts : Evaluates row existing start middle outcome)
    (alters : ∀ value, outcome = some value → Alters row start.result right next value after)
    (fails : outcome = none → after = none) :
    Evaluates row existing ⟨start.steps ++ right, start.result⟩ next after := by
  intro registers fits isNull
  have started := starts registers (Nat.le_trans onward fits) isNull
  apply runTo_then started _ fails
  intro reached value ran isBefore begun
  exact alters value begun reached (by rw [run_size ran]; exact fits) isBefore

theorem Expectation.accepts_null (expectation : Expectation) :
    expectation.accepts .null = false := by
  cases expectation <;> rfl

theorem Evaluates.reuse {into : Register} {expectation : Expectation} {update create : Program}
    (creates : Evaluates row none create middle outcome)
    (behind : middle.nextRegister ≤ next.nextRegister) (inside : into < next.nextRegister) :
    Evaluates row (some register)
      (Program.single (.reuse register expectation update create into) into) next outcome := by
  intro registers fits isNull
  have created := creates registers (Nat.le_trans behind fits) (by simp)
  unfold runTo at created ⊢
  rw [Program.single, runSteps_single, runStep, isNull register rfl, expectation.accepts_null]
  obtain ⟨steps, result⟩ := create
  simp only [Bool.false_eq_true, if_false, runInto]
  cases ran : runSteps row registers steps with
  | error failure =>
      rw [ran] at created
      exact created
  | ok reached =>
      rw [ran] at created
      have inFile : into < reached.size := by
        rw [run_size ran]
        exact Nat.lt_of_lt_of_le inside fits
      simp only [Except.toOption, Option.map_some] at created ⊢
      rw [Registers.get_move inFile]
      exact created

/-! ## Steps that alter a value -/

theorem Alters.nil : Alters row target [] next before (some before) := by
  intro registers _ isBefore
  rw [← isBefore]
  rfl

theorem Alters.append {after : Option Value} (onward : middle.nextRegister ≤ next.nextRegister)
    (first : Alters row target left middle before outcome)
    (second : ∀ value, outcome = some value → Alters row target right next value after)
    (fails : outcome = none → after = none) :
    Alters row target (left ++ right) next before after := by
  intro registers fits isBefore
  apply runTo_then (first registers (Nat.le_trans onward fits) isBefore) _ fails
  intro reached value ran isBetween begun
  exact second value begun reached (by rw [run_size ran]; exact fits) isBetween

theorem Planned.combined_of {item : Program} {step : Step} (change : Value → Value → Value)
    (planned : Planned existing pass item next)
    (evaluated : runTo row registers item.steps item.result = outcome)
    (known : target < pass.nextRegister) (apart : target ∉ existing.toList)
    (changes : ∀ registers : Registers, runStep row registers step =
      .ok ((registers.take item.result).2.write target
        (change ((registers.take item.result).2.get target) (registers.take item.result).1)))
    (fits : next.nextRegister ≤ registers.size) :
    runTo row registers (item.steps ++ [step]) target =
      outcome.map fun value => change (registers.get target) value := by
  apply runTo_then evaluated
  · intro reached value ran isValue begun
    have low := planned.owned
    have older := planned.block.onward.registers
    have distinct : item.result ≠ target := by lia
    have inFile : target < reached.size := by
      rw [run_size ran]
      lia
    have combined := @Registers.get_combine reached _ _ change distinct inFile
    have kept := planned.block.run_same ran known apart
    rw [begun, Option.map_some, ← kept, ← isValue, ← combined, runTo, runSteps_single, changes]
    rfl
  · intro failed
    rw [failed]
    rfl

theorem Planned.combined {item : Program} {step : Step} (change : Value → Value → Value)
    (planned : Planned existing pass item next)
    (evaluates : Evaluates row existing item next outcome)
    (known : target < pass.nextRegister) (apart : target ∉ existing.toList)
    (changes : ∀ registers : Registers, runStep row registers step =
      .ok ((registers.take item.result).2.write target
        (change ((registers.take item.result).2.get target) (registers.take item.result).1)))
    (fits : next.nextRegister ≤ registers.size)
    (isNull : ∀ register, existing = some register → registers.get register = .null) :
    runTo row registers (item.steps ++ [step]) target =
      outcome.map fun value => change (registers.get target) value :=
  planned.combined_of change (evaluates registers fits isNull) known apart changes fits

theorem Planned.assigned {item : Program} {field : String}
    (planned : Planned existing pass item next)
    (evaluates : Evaluates row existing item next outcome)
    (known : target < pass.nextRegister) (apart : target ∉ existing.toList)
    (fits : next.nextRegister ≤ registers.size)
    (isNull : ∀ register, existing = some register → registers.get register = .null) :
    runTo row registers (item.steps ++ [.assign target field item.result]) target =
      outcome.map fun value => (registers.get target).setField field value :=
  planned.combined (fun held => held.setField field) evaluates known apart
    (fun registers => by rw [runStep]) fits isNull

theorem Alters.combined {item : Program} {step : Step} (change : Value → Value → Value)
    (planned : Planned none pass item next) (evaluates : Evaluates row none item next outcome)
    (known : target < pass.nextRegister)
    (changes : ∀ registers : Registers, runStep row registers step =
      .ok ((registers.take item.result).2.write target
        (change ((registers.take item.result).2.get target) (registers.take item.result).1))) :
    Alters row target (item.steps ++ [step]) next before
      (outcome.map fun value => change before value) := by
  intro registers fits isBefore
  rw [← isBefore]
  exact planned.combined change evaluates known (by simp) changes fits (by simp)

theorem Alters.assigned {item : Program} {field : String} (planned : Planned none pass item next)
    (evaluates : Evaluates row none item next outcome) (known : target < pass.nextRegister) :
    Alters row target (item.steps ++ [.assign target field item.result]) next before
      (outcome.map fun value => before.setField field value) :=
  Alters.combined (fun held => held.setField field) planned evaluates known
    fun registers => by rw [runStep]

theorem Alters.projected {item : Program} {field : String}
    (planned : Planned existing pass.advanced item next)
    (evaluates : Evaluates row existing item next outcome) (known : target < pass.nextRegister)
    (isNull : ∀ register, existing = some register →
      register = pass.nextRegister ∧ before.field field = .null) :
    Alters row target
      (.project target field pass.nextRegister ::
        (item.steps ++ [.assign target field item.result])) next before
      (outcome.map fun value => before.setField field value) := by
  intro registers fits isBefore
  have distinct : target ≠ pass.nextRegister := Nat.ne_of_lt known
  have older := planned.block.onward.registers
  have advanced : pass.advanced.nextRegister = pass.nextRegister + 1 := rfl
  have inFile : pass.nextRegister < registers.size := by lia
  have kept : (registers.write pass.nextRegister (before.field field)).get target = before := by
    rw [Registers.get_write_other distinct, isBefore]
  have apart : target ∉ existing.toList := by
    intro member
    have offered := (isNull target (Option.mem_toList.mp member)).1
    exact distinct offered
  have offered : ∀ register, existing = some register →
      (registers.write pass.nextRegister (before.field field)).get register = .null := by
    intro register same
    obtain ⟨rfl, empty⟩ := isNull register same
    rw [Registers.get_write_same inFile, empty]
  have assigned := @Planned.assigned row _ existing target _ next outcome item field planned
    evaluates (Nat.lt_succ_of_lt known) apart (by rw [Registers.size_write]; exact fits) offered
  rw [kept] at assigned
  rw [← assigned, runTo, runTo, runSteps, runStep, isBefore]

end Rules

/-! ## Several programs -/

namespace Gathers

variable {row : Row} {pass next : Pass} {items : List Program} {outcomes : List (Option Value)}

theorem toItems (gathers : Gathers row pass items outcomes next) : Items pass items next := by
  induction gathers with
  | nil => exact Items.nil rfl (Nat.le_refl _)
  | cons planned evaluates later ih => exact Items.cons planned ih

theorem results (gathers : Gathers row pass items outcomes next) {registers : Registers}
    (fits : next.nextRegister ≤ registers.size) :
    (runSteps row registers (items.flatMap ProgramOf.steps)).toOption.map
        (fun finished => items.map fun item => finished.get item.result) =
      gathered outcomes := by
  induction gathers generalizing registers with
  | nil => rfl
  | @cons pass middle next first rest outcome outcomes planned evaluates later ih =>
      have items := later.toItems
      have ranFirst := evaluates registers (Nat.le_trans items.registers fits) (by simp)
      rw [List.flatMap_cons, runSteps_append_toOption]
      cases isOutcome : outcome with
      | none =>
          rw [isOutcome, runTo, Option.map_eq_none_iff] at ranFirst
          rw [ranFirst]
          rfl
      | some value =>
          rw [isOutcome] at ranFirst
          obtain ⟨between, ran, isValue⟩ := runTo_eq_some.mp ranFirst
          rw [ran]
          rw [gathered, Option.bind_some, ← @ih between (by rw [run_size ran]; exact fits)]
          simp only [Except.toOption, Option.bind_some]
          cases ranRest : runSteps row between (rest.flatMap ProgramOf.steps) with
          | error failure => rfl
          | ok finished =>
              have kept := items.block.run_same ranRest planned.below (by simp)
              simp only [Option.map_some, List.map_cons, kept, isValue]

theorem built {step : Step} (build : List Value → Value)
    (gathers : Gathers row pass items outcomes next)
    (builds : ∀ registers : Registers, runStep row registers step =
      .ok ((registers.takeAll (items.map ProgramOf.result)).2.write next.nextRegister
        (build (registers.takeAll (items.map ProgramOf.result)).1))) :
    Evaluates row none ⟨items.flatMap ProgramOf.steps ++ [step], next.nextRegister⟩ next.advanced
      ((gathered outcomes).map build) := by
  intro registers fits _
  have fits : next.nextRegister + 1 ≤ registers.size := fits
  rw [runTo, runSteps_append_toOption, ← gathers.results (Nat.le_of_succ_le fits)]
  cases ran : runSteps row registers (items.flatMap ProgramOf.steps) with
  | error failure => rfl
  | ok finished =>
      have inside : next.nextRegister <
          (finished.takeAll (items.map ProgramOf.result)).2.size := by
        rw [Registers.size_takeAll, run_size ran]
        exact fits
      simp only [Except.toOption, Option.bind_some, Option.map_some]
      rw [runSteps_single, builds]
      simp only [Option.map_some]
      rw [Registers.get_write_same inside,
        Registers.takeAll_values gathers.toItems.results.1, List.map_map]
      rfl

theorem constructs (gathers : Gathers row pass items outcomes next) (type : ObjectType)
    (constructor : Constructor) :
    Evaluates row none
      ⟨items.flatMap ProgramOf.steps
          ++ [.construct type constructor (items.map ProgramOf.result) next.nextRegister],
        next.nextRegister⟩
      next.advanced
      ((gathered outcomes).map fun values => (constructor.construct type values).toValue) :=
  gathers.built _ fun registers => by rw [runStep]

end Gathers

/-! ## Plans -/

theorem Except.ok_iff_toOption {ε α : Type} {outcome : Except ε α} {value : α} :
    outcome = .ok value ↔ outcome.toOption = some value := by
  cases outcome with
  | ok found => simp [Except.toOption]
  | error failure => simp [Except.toOption]

theorem Plan.run_evaluates {row : Row} {plan : Plan} {next : Pass} {outcome : Option Value}
    (evaluates : Evaluates row (some existingRegister) plan.program next outcome)
    (started : 0 < next.nextRegister) (fits : next.nextRegister ≤ plan.registerCount) :
    (plan.run row .null).toOption = outcome := by
  have isNull : ∀ register, some existingRegister = some register →
      (Registers.start plan.registerCount .null).get register = .null := by
    intro register same
    cases same
    exact Registers.get_start _ _ (Nat.lt_of_lt_of_le started fits)
  rw [← evaluates _ (by simpa [Registers.start] using fits) isNull, runTo, Plan.run]
  cases runSteps row (Registers.start plan.registerCount .null) plan.program.steps with
  | ok registers => rfl
  | error failure => rfl

end Unflatten
