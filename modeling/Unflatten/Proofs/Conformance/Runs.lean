import Mathlib.Data.List.Forall2
import Unflatten.Proofs.Conformance.Basic
import Unflatten.Proofs.Planning.Planners
import Unflatten.Proofs.Program.RunFrame

/-!
# What planned programs come to

`Yields` says what a run of a program makes of an existing value, `Brings` what a run of steps makes
of the value in one register, `Keeps` that it keeps an invariant of this value, and `Produces` what
several programs give in turn. The registers that a block does not use are left alone by its runs,
so these statements compose as the blocks do.
-/

set_option autoImplicit false

namespace Unflatten

/-- If the existing value has the property `input`, then the result has the property `output`. -/
def Yields (row : Row) (existing : Option Register) (input output : Value → Prop)
    (program : Program) (next : Pass) : Prop :=
  ∀ registers finished : Registers, next.nextRegister ≤ registers.size →
    (∀ register, existing = some register → input (registers.get register)) →
    runSteps row registers program.steps = .ok finished → output (finished.get program.result)

/-- The value in the register has the property `input` before and the property `output` after. -/
def Brings (row : Row) (target : Register) (input output : Value → Prop) (steps : List Step)
    (next : Pass) : Prop :=
  ∀ registers finished : Registers, next.nextRegister ≤ registers.size →
    input (registers.get target) → runSteps row registers steps = .ok finished →
      output (finished.get target)

def Keeps (row : Row) (target : Register) (invariant : Value → Prop) (steps : List Step)
    (next : Pass) : Prop :=
  ∀ registers finished : Registers, next.nextRegister ≤ registers.size →
    invariant (registers.get target) → runSteps row registers steps = .ok finished →
      invariant (finished.get target)

/-- Programs one after the other, each with the property of its result. -/
inductive Produces (row : Row) : Pass → List Program → List (Value → Prop) → Pass → Prop where
  | nil {pass next : Pass} (claims : next.claims = pass.claims)
      (registers : pass.nextRegister ≤ next.nextRegister) : Produces row pass [] [] next
  | cons {pass middle next : Pass} {first : Program} {rest : List Program}
      {output : Value → Prop} {outputs : List (Value → Prop)} {input : Value → Prop}
      (planned : Planned none pass first middle)
      (yields : Yields row none input output first middle)
      (later : Produces row middle rest outputs next) :
      Produces row pass (first :: rest) (output :: outputs) next

/-! ## Registers -/

namespace Registers

variable {registers : Registers} {source target : Register}

theorem get_start (count : Nat) (existing : Value) (some : 0 < count) :
    (start count existing).get existingRegister = existing := by
  simp [start, get, existingRegister, some]

theorem takeAll_values {taken : List Register} (distinct : taken.Nodup) :
    (registers.takeAll taken).1 = taken.map registers.get := by
  induction taken generalizing registers with
  | nil => rfl
  | cons first rest ih =>
      rw [List.nodup_cons] at distinct
      rw [takeAll]
      simp only [List.map_cons, ih distinct.2]
      congr 1
      apply List.map_congr_left
      intro other member
      have differs : other ≠ first := by
        rintro rfl
        exact distinct.1 member
      exact get_write_other differs

theorem get_move (inside : target < registers.size) :
    (registers.move source target).get target = registers.get source := by
  unfold move
  exact get_write_same (by rw [take, size_write]; exact inside)

theorem get_combine {change : Value → Value → Value} (distinct : source ≠ target)
    (inside : target < registers.size) :
    ((registers.take source).2.write target
        (change ((registers.take source).2.get target) (registers.take source).1)).get target =
      change (registers.get target) (registers.get source) := by
  rw [get_write_same (by rw [take, size_write]; exact inside)]
  simp only [take]
  rw [get_write_other (Ne.symm distinct)]

end Registers

section Rules

variable {row : Row} {existing : Option Register} {input output wider : Value → Prop}
variable {pass middle next : Pass} {program : Program} {registers finished : Registers}

theorem Block.run_same {uses gives : List Register} {steps : List Step}
    (block : Block uses gives pass steps next)
    (ran : runSteps row registers steps = .ok finished) {register : Register}
    (old : register < pass.nextRegister) (unused : register ∉ uses) :
    finished.get register = registers.get register := by
  refine (runSteps_frame row steps ran).same register fun member => ?_
  rcases block.registers register member with used | ⟨low, -⟩
  · exact unused used
  · exact Nat.not_lt_of_le low old

theorem run_size {steps : List Step} (ran : runSteps row registers steps = .ok finished) :
    finished.size = registers.size :=
  (runSteps_frame row steps ran).size

theorem Yields.mono (yields : Yields row existing input output program next)
    (implied : ∀ value, output value → wider value) :
    Yields row existing input wider program next :=
  fun registers finished fits starts ran =>
    implied _ (yields registers finished fits starts ran)

theorem Yields.ofNew {other : Value → Prop} (yields : Yields row none other output program next) :
    Yields row existing input output program next :=
  fun registers finished fits _ ran => yields registers finished fits (by simp) ran

theorem Yields.later {after : Pass} (yields : Yields row existing input output program next)
    (behind : next.nextRegister ≤ after.nextRegister) :
    Yields row existing input output program after :=
  fun registers finished fits starts ran =>
    yields registers finished (Nat.le_trans behind fits) starts ran

theorem Yields.outcome {step : Step} (outcome : Except Failure Value)
    (writes : ∀ registers, runStep row registers step =
      writeOutcome registers pass.nextRegister outcome)
    (ends : next.nextRegister = pass.nextRegister + 1)
    (holds : ∀ value, outcome = .ok value → output value) :
    Yields row none input output (Program.single step pass.nextRegister) next := by
  intro registers finished fits _ ran
  have ran : runSteps row registers [step] = .ok finished := ran
  rw [runSteps_single, writes] at ran
  unfold writeOutcome at ran
  obtain ⟨value, same, rfl⟩ := Except.map_eq_ok ran
  have inside : pass.nextRegister < registers.size := by lia
  have written : (registers.write pass.nextRegister value).get pass.nextRegister = value :=
    Registers.get_write_same inside
  simp only [Program.single, written]
  exact holds value same

theorem Yields.constant {value : Value} (holds : output value) :
    Yields row none input output
      (Program.single (.constant value pass.nextRegister) pass.nextRegister) pass.advanced := by
  refine Yields.outcome (.ok value) (fun registers => ?_) rfl fun other same => ?_
  · rw [runStep]
    rfl
  · cases same
    exact holds

theorem Yields.brought {start : Program} {steps : List Step}
    (onward : middle.nextRegister ≤ next.nextRegister)
    (starts : Yields row existing input wider start middle)
    (brings : Brings row start.result wider output steps next) :
    Yields row existing input output ⟨start.steps ++ steps, start.result⟩ next := by
  intro registers finished fits given ran
  obtain ⟨between, first, second⟩ := runSteps_append.mp ran
  refine brings between finished ?_ ?_ second
  · rw [run_size first]
    exact fits
  · exact starts registers between (Nat.le_trans onward fits) given first

theorem Yields.filled {start : Program} {steps : List Step}
    (onward : middle.nextRegister ≤ next.nextRegister)
    (starts : Yields row existing input output start middle)
    (keeps : Keeps row start.result output steps next) :
    Yields row existing input output ⟨start.steps ++ steps, start.result⟩ next :=
  Yields.brought onward starts keeps

theorem Yields.into {into : Register} (yields : Yields row existing input output program next)
    (fits : next.nextRegister ≤ registers.size) (inside : into < registers.size)
    (starts : ∀ register, existing = some register → input (registers.get register))
    (ran : runInto row registers program into = .ok finished) : output (finished.get into) := by
  obtain ⟨steps, result⟩ := program
  rw [runInto] at ran
  split at ran
  · rename_i between first
    cases ran
    rw [Registers.get_move (by rw [run_size first]; exact inside)]
    exact yields registers between fits starts first
  · cases ran

theorem Yields.keep {register : Register} :
    Yields row (some register) output output (Program.keep register) next := by
  intro registers finished _ starts ran
  cases ran
  exact starts register rfl

theorem Yields.reuse {register into : Register} {expectation : Expectation}
    {update create : Program} {updated created : Pass} {accepted : Value → Prop}
    (updates : Yields row (some register) accepted output update updated)
    (creates : Yields row none input output create created)
    (accepts : ∀ value, expectation.accepts value = true → input value → accepted value)
    (behindUpdate : updated.nextRegister ≤ next.nextRegister)
    (behindCreate : created.nextRegister ≤ next.nextRegister) (inside : into < next.nextRegister) :
    Yields row (some register) input output
      (Program.single (.reuse register expectation update create into) into) next := by
  intro registers finished fits starts ran
  have ran : runSteps row registers [.reuse register expectation update create into] =
      .ok finished := ran
  rw [runSteps_single, runStep] at ran
  have inFile := Nat.lt_of_lt_of_le inside fits
  simp only [Program.single]
  split at ran
  · rename_i isAccepted
    refine Yields.into updates (Nat.le_trans behindUpdate fits) inFile (fun other same => ?_) ran
    cases same
    exact accepts _ isAccepted (starts register rfl)
  · exact Yields.into creates (Nat.le_trans behindCreate fits) inFile (by simp) ran

theorem Keeps.nil {target : Register} {invariant : Value → Prop} :
    Keeps row target invariant [] next := by
  intro registers finished _ holds ran
  cases ran
  exact holds

theorem Brings.append {target : Register} {left right : List Step}
    (onward : middle.nextRegister ≤ next.nextRegister)
    (first : Brings row target input wider left middle)
    (second : Brings row target wider output right next) :
    Brings row target input output (left ++ right) next := by
  intro registers finished fits holds ran
  obtain ⟨between, ranFirst, ranSecond⟩ := runSteps_append.mp ran
  refine second between finished ?_ ?_ ranSecond
  · rw [run_size ranFirst]
    exact fits
  · exact first registers between (Nat.le_trans onward fits) holds ranFirst

theorem Brings.narrow {target : Register} {steps : List Step}
    (brings : Brings row target wider output steps next)
    (implied : ∀ value, input value → wider value) : Brings row target input output steps next :=
  fun registers finished fits holds ran => brings registers finished fits (implied _ holds) ran

theorem Keeps.append {target : Register} {invariant : Value → Prop} {left right : List Step}
    (onward : middle.nextRegister ≤ next.nextRegister)
    (first : Keeps row target invariant left middle)
    (second : Keeps row target invariant right next) :
    Keeps row target invariant (left ++ right) next :=
  Brings.append onward first second

/-- The result of a program is put into a target; `before` holds of the target at the start. -/
theorem Planned.added_get {item : Program} {target : Register} {step : Step}
    (change : Value → Value → Value) (planned : Planned existing pass item next)
    (known : target < pass.nextRegister) (distinct : target ∉ existing.toList)
    (changes : ∀ registers : Registers, runStep row registers step =
      .ok ((registers.take item.result).2.write target
        (change ((registers.take item.result).2.get target) (registers.take item.result).1)))
    (fits : next.nextRegister ≤ registers.size)
    (ran : runSteps row registers (item.steps ++ [step]) = .ok finished) :
    ∃ between, runSteps row registers item.steps = .ok between ∧
      finished.get target = change (registers.get target) (between.get item.result) := by
  obtain ⟨between, first, second⟩ := runSteps_append.mp ran
  rw [runSteps_single, changes] at second
  cases second
  have low := planned.owned
  have older := planned.block.onward.registers
  refine ⟨between, first, ?_⟩
  rw [Registers.get_combine (by lia) (by rw [run_size first]; lia),
    planned.block.run_same first known distinct]

theorem Brings.added {item : Program} {target : Register} {step : Step}
    {held changed : Value → Prop} (change : Value → Value → Value)
    (planned : Planned none pass item next) (yields : Yields row none input output item next)
    (known : target < pass.nextRegister)
    (changes : ∀ registers : Registers, runStep row registers step =
      .ok ((registers.take item.result).2.write target
        (change ((registers.take item.result).2.get target) (registers.take item.result).1)))
    (brings : ∀ present value, held present → output value → changed (change present value)) :
    Brings row target held changed (item.steps ++ [step]) next := by
  intro registers finished fits holds ran
  obtain ⟨between, first, same⟩ := planned.added_get change known (by simp) changes fits ran
  rw [same]
  exact brings _ _ holds (yields registers between fits (by simp) first)

theorem Keeps.added {item : Program} {target : Register} {step : Step}
    {invariant : Value → Prop} (change : Value → Value → Value)
    (planned : Planned none pass item next) (yields : Yields row none input output item next)
    (known : target < pass.nextRegister)
    (changes : ∀ registers : Registers, runStep row registers step =
      .ok ((registers.take item.result).2.write target
        (change ((registers.take item.result).2.get target) (registers.take item.result).1)))
    (keeps : ∀ held value, invariant held → output value → invariant (change held value)) :
    Keeps row target invariant (item.steps ++ [step]) next :=
  Brings.added change planned yields known changes keeps

end Rules

/-! ## Several programs -/

namespace Produces

variable {row : Row} {pass next : Pass} {items : List Program} {outputs : List (Value → Prop)}

theorem toItems (produces : Produces row pass items outputs next) : Items pass items next := by
  induction produces with
  | nil claims registers => exact Items.nil claims registers
  | cons planned yields later ih => exact Items.cons planned ih

theorem results (produces : Produces row pass items outputs next) {registers finished : Registers}
    (fits : next.nextRegister ≤ registers.size)
    (ran : runSteps row registers (items.flatMap ProgramOf.steps) = .ok finished) :
    List.Forall₂ (fun output value => output value) outputs
      (items.map fun item => finished.get item.result) := by
  induction produces generalizing registers with
  | nil => exact List.Forall₂.nil
  | @cons pass middle next first rest output outputs input planned yields later ih =>
      rw [List.flatMap_cons] at ran
      obtain ⟨between, ranFirst, ranRest⟩ := runSteps_append.mp ran
      have restItems := later.toItems
      have kept : finished.get first.result = between.get first.result :=
        restItems.block.run_same ranRest planned.below (by simp)
      rw [List.map_cons]
      refine List.Forall₂.cons ?_ (ih (by rw [run_size ranFirst]; exact fits) ranRest)
      rw [kept]
      exact yields registers between (Nat.le_trans restItems.registers fits) (by simp) ranFirst

theorem gathered {step : Step} {input output : Value → Prop} (build : List Value → Value)
    (produces : Produces row pass items outputs next)
    (gathers : ∀ registers : Registers, runStep row registers step =
      .ok ((registers.takeAll (items.map ProgramOf.result)).2.write next.nextRegister
        (build (registers.takeAll (items.map ProgramOf.result)).1)))
    (holds : ∀ values, List.Forall₂ (fun output value => output value) outputs values →
      output (build values)) :
    Yields row none input output
      ⟨items.flatMap ProgramOf.steps ++ [step], next.nextRegister⟩ next.advanced := by
  intro registers finished fits _ ran
  obtain ⟨between, first, second⟩ := runSteps_append.mp ran
  rw [runSteps_single, gathers] at second
  cases second
  have fits : next.nextRegister + 1 ≤ registers.size := fits
  have inside : next.nextRegister < (between.takeAll (items.map ProgramOf.result)).2.size := by
    rw [Registers.size_takeAll, run_size first]
    exact fits
  simp only []
  rw [Registers.get_write_same inside, Registers.takeAll_values produces.toItems.results.1]
  apply holds
  rw [List.map_map]
  exact produces.results (Nat.le_of_succ_le fits) first

end Produces

end Unflatten
