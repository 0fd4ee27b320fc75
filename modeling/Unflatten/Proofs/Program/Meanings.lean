import Unflatten.Proofs.Program.Blank

/-!
# Meanings of programs

In a register file that holds null from the first free register on, a planned program is a partial
function of the existing value: the function it `Means`, whichever registers it uses. Steps that are
planned for a target are a partial function of the value in there. Such functions compose as blocks
do.

Programs that are planned between the same passes are alike if no register file tells them apart
that is blank from the first pass on. What is made of alike programs in the same way is alike.
-/

set_option autoImplicit false

namespace Unflatten

/-- What an existing register holds, and null where there is none. -/
def Registers.held (registers : Registers) (existing : Option Register) : Value :=
  (existing.map registers.get).getD .null

/-- The file has the registers given out up to `next`, and those given out after `pass` are blank. -/
structure Registers.Open (registers : Registers) (pass next : Pass) : Prop where
  fits : next.nextRegister ≤ registers.size
  blank : ∀ register, pass.nextRegister ≤ register → registers.get register = .null

/-- The result of the program is this function of the existing value, `none` if the run fails. -/
def Means (row : Row) (existing : Option Register) (pass : Pass) (program : Program) (next : Pass)
    (meaning : Value → Option Value) : Prop :=
  ∀ registers : Registers, registers.Open pass next →
    runTo row registers program.steps program.result = meaning (registers.held existing)

/-- The steps change the value in the target by this function. -/
def Changes (row : Row) (target : Register) (pass : Pass) (steps : List Step) (next : Pass)
    (change : Value → Option Value) : Prop :=
  ∀ registers : Registers, registers.Open pass next →
    runTo row registers steps target = change (registers.get target)

namespace Registers.Open

variable {row : Row} {registers reached : Registers} {pass middle next : Pass}

theorem upTo (isOpen : registers.Open pass next) (behind : middle.nextRegister ≤ next.nextRegister) :
    registers.Open pass middle :=
  ⟨Nat.le_trans behind isOpen.fits, isOpen.blank⟩

theorem between {earlier later : Pass} (isOpen : registers.Open earlier later)
    (before : earlier.nextRegister ≤ pass.nextRegister)
    (behind : next.nextRegister ≤ later.nextRegister) : registers.Open pass next :=
  ⟨Nat.le_trans behind isOpen.fits,
    fun register free => isOpen.blank register (Nat.le_trans before free)⟩

theorem after {uses gives : List Register} {steps : List Step}
    (isOpen : registers.Open pass next) (block : Block uses gives pass steps middle)
    (ran : runSteps row registers steps = .ok reached) : reached.Open middle next := by
  refine ⟨by rw [run_size ran]; exact isOpen.fits, fun register free => ?_⟩
  have older := block.onward.registers
  have unused : register ∉ stepsRegisters steps := by
    intro member
    rcases block.registers register member with used | ⟨-, low⟩
    · have known := block.known register used
      lia
    · lia
  rw [(runSteps_frame row steps ran).same register unused]
  exact isOpen.blank register (Nat.le_trans older free)

theorem advanced (isOpen : registers.Open pass next) (value : Value) :
    (registers.write pass.nextRegister value).Open pass.advanced next := by
  refine ⟨by rw [size_write]; exact isOpen.fits, fun register free => ?_⟩
  have free : pass.nextRegister + 1 ≤ register := free
  rw [get_write_other (by lia)]
  exact isOpen.blank register (Nat.le_of_succ_le free)

theorem start (existing : Value) (some : 0 < pass.nextRegister) {count : Nat}
    (fits : next.nextRegister ≤ count) : (Registers.start count existing).Open pass next :=
  ⟨by rw [size_start]; exact fits, fun register free =>
    start_get count existing (Nat.ne_of_gt (Nat.lt_of_lt_of_le some free))⟩

end Registers.Open

/-! ## What a block comes to -/

section Moved

variable {row : Row} {registers others : Registers} {pass next : Pass} {program : Program}
variable {uses gives : List Register} {steps : List Step} {result : Register}

theorem Block.runTo_moved (row : Row) (offset : Nat) (block : Block uses gives pass steps next)
    (isResult : result ∈ uses ∨ pass.nextRegister ≤ result ∧ result < next.nextRegister)
    (isOpen : registers.Open pass next) (fits : next.nextRegister + offset ≤ others.size)
    (blank : ∀ register, pass.nextRegister + offset ≤ register → others.get register = .null)
    (same : ∀ register ∈ uses, others.get (register + offset) = registers.get register) :
    runTo row others (renameSteps (Register.further offset) steps) (result + offset) =
      runTo row registers steps result := by
  have own {register : Register} (member : register ∈ result :: stepsRegisters steps) :
      register ∈ uses ∨ pass.nextRegister ≤ register ∧ register < next.nextRegister := by
    rcases List.mem_cons.mp member with rfl | member
    · exact isResult
    · exact block.registers register member
  have older := block.onward.registers
  have follows : Registers.Follows (Register.further offset) (result :: stepsRegisters steps)
      registers others := by
    refine ⟨Register.further_injective offset, fun register member => ?_,
      fun register member => ?_⟩
    · rcases own member with used | ⟨free, -⟩
      · exact same register used
      · rw [isOpen.blank register free]
        exact blank _ (Nat.add_le_add_right free offset)
    · have below : register < next.nextRegister := by
        rcases own member with used | ⟨-, below⟩
        · exact Nat.lt_of_lt_of_le (block.known register used) older
        · exact below
      have fitsHere := isOpen.fits
      rw [Register.further]
      lia
  have mirrors := runSteps_rename row follows steps fun register member =>
    List.mem_cons_of_mem _ member
  unfold runTo
  generalize runSteps row registers steps = one at mirrors
  generalize runSteps row others (renameSteps (Register.further offset) steps) = another at mirrors
  cases mirrors with
  | error failure => rfl
  | ok finished => exact congrArg some (finished.same result List.mem_cons_self)

theorem Block.runTo_same (block : Block uses gives pass steps next)
    (isResult : result ∈ uses ∨ pass.nextRegister ≤ result ∧ result < next.nextRegister)
    (isOpen : registers.Open pass next) (othersOpen : others.Open pass next)
    (same : ∀ register ∈ uses, others.get register = registers.get register) :
    runTo row others steps result = runTo row registers steps result := by
  have here := block.runTo_moved row 0 isResult isOpen othersOpen.fits othersOpen.blank same
  have there := block.runTo_moved row 0 isResult othersOpen othersOpen.fits othersOpen.blank
    fun _ _ => rfl
  exact there.symm.trans here

/-- A file that holds nothing but this value. -/
def Registers.holding (count : Nat) : Option Register → Value → Registers
  | none, _ => start count .null
  | some register, value => (start count .null).write register value

theorem Registers.size_holding (count : Nat) (existing : Option Register) (value : Value) :
    (holding count existing value).size = count := by
  cases existing with
  | none => exact size_start count .null
  | some register => rw [holding, size_write, size_start]

theorem Registers.holding_get {count : Nat} {existing register : Register} (value : Value)
    (inside : existing < count) :
    (holding count (some existing) value).get register =
      if register = existing then value else .null := by
  rw [holding]
  split
  · rename_i same
    subst same
    exact get_write_same (by rw [size_start]; exact inside)
  · rename_i differs
    rw [get_write_other differs]
    exact start_blank count register

theorem Registers.holding_open {existing : Option Register} (value : Value)
    (known : ∀ register, existing = some register → register < pass.nextRegister) :
    (holding next.nextRegister existing value).Open pass next := by
  refine ⟨by rw [size_holding], fun register free => ?_⟩
  cases existing with
  | none => exact start_blank _ register
  | some other =>
      have low := known other rfl
      rw [holding, get_write_other (by lia)]
      exact start_blank _ register

theorem Registers.held_holding {existing : Register} (value : Value) {count : Nat}
    (inside : existing < count) :
    (holding count (some existing) value).held (some existing) = value := by
  simp [held, holding_get value inside]

end Moved

section Meanings

variable {row : Row} {existing : Option Register} {pass middle next : Pass}
variable {program create update : Program} {target register into : Register}
variable {steps left right : List Step} {meaning created updated : Value → Option Value}
variable {change first second : Value → Option Value}

theorem Planned.exists_means (row : Row) (planned : Planned existing pass program next) :
    ∃ meaning, Means row existing pass program next meaning := by
  have known : ∀ register, existing = some register → register < pass.nextRegister :=
    fun register same => planned.block.known register (by simp [same])
  refine ⟨fun value => runTo row (Registers.holding next.nextRegister existing value)
    program.steps program.result, fun registers isOpen => ?_⟩
  refine planned.block.runTo_same (Or.inr ⟨planned.owned, planned.below⟩)
    (Registers.holding_open _ known) isOpen fun register member => ?_
  have isExisting := Option.mem_toList.mp member
  subst isExisting
  have inside := Nat.lt_of_lt_of_le (known register rfl) planned.block.onward.registers
  rw [Registers.holding_get _ inside, if_pos rfl]
  rfl

/-! ## Programs -/

theorem Means.ofNew (means : Means row none pass program next meaning) :
    Means row existing pass program next fun _ => meaning .null :=
  means

theorem Means.later (means : Means row existing pass program middle meaning)
    (behind : middle.nextRegister ≤ next.nextRegister) :
    Means row existing pass program next meaning :=
  fun registers isOpen => means registers (isOpen.upTo behind)

theorem Means.between {earlier later : Pass} (means : Means row existing pass program next meaning)
    (before : earlier.nextRegister ≤ pass.nextRegister)
    (behind : next.nextRegister ≤ later.nextRegister) :
    Means row existing earlier program later meaning :=
  fun registers isOpen => means registers (isOpen.between before behind)

theorem Means.filled (planned : Planned existing pass program middle)
    (starts : Means row existing pass program middle meaning)
    (behind : middle.nextRegister ≤ next.nextRegister)
    (changes : Changes row program.result middle steps next change) :
    Means row existing pass ⟨program.steps ++ steps, program.result⟩ next
      fun value => (meaning value).bind change := by
  intro registers isOpen
  dsimp only
  refine runTo_then (starts registers (isOpen.upTo behind)) ?_ (fun failed => by rw [failed]; rfl)
  intro reached value ran isValue given
  rw [given, Option.bind_some, ← isValue]
  exact changes reached (isOpen.after planned.block ran)

theorem runTo_result (row : Row) (registers : Registers) (program : Program) :
    runTo row registers program.steps program.result =
      (program.outcome row registers).toOption := by
  unfold runTo Program.outcome
  cases runSteps row registers program.steps with
  | error failure => rfl
  | ok finished => rfl

theorem Means.reuse {expectation : Expectation} (inside : into < next.nextRegister)
    (updates : Means row (some register) pass update next updated)
    (creates : Means row none pass create next created) :
    Means row (some register) pass
      (Program.single (.reuse register expectation update create into) into) next
      fun value => if expectation.accepts value then updated value else created .null := by
  intro registers isOpen
  have inFile := Nat.lt_of_lt_of_le inside isOpen.fits
  have isHeld : registers.held (some register) = registers.get register := rfl
  rw [runTo_result, isHeld]
  dsimp only
  split
  · rename_i accepted
    rw [Program.outcome_within (by rw [runStep, if_pos accepted]) inFile, ← runTo_result]
    exact updates registers isOpen
  · rename_i refused
    rw [Program.outcome_within (by rw [runStep, if_neg refused]) inFile, ← runTo_result]
    exact creates registers isOpen

theorem Means.select {branches : List Branch} {fallback : Program}
    (inside : into < next.nextRegister)
    (taken : Means row none pass
      (((branches.find? fun branch => branch.accepts row).map BranchOf.program).getD fallback) next
      meaning) :
    Means row none pass (Program.single (.select branches fallback into) into) next meaning := by
  intro registers isOpen
  have ran := taken registers isOpen
  rw [runTo_result] at ran
  rw [runTo_result, Program.outcome_select (Nat.lt_of_lt_of_le inside isOpen.fits), ← ran]
  cases branches.find? fun branch => branch.accepts row with
  | some branch => rfl
  | none => rfl

theorem Means.keep : Means row (some register) pass (Program.keep register) next some :=
  fun _ _ => rfl

theorem Means.moved {offset : Nat} {other after : Pass}
    (planned : Planned existing pass program next)
    (means : Means row existing pass program next meaning)
    (starts : other.nextRegister = pass.nextRegister + offset)
    (ends : after.nextRegister = next.nextRegister + offset) :
    Means row (existing.map (Register.further offset)) other (program.moved offset) after
      meaning := by
  intro registers isOpen
  have known : ∀ register, existing = some register → register < next.nextRegister :=
    fun register same => Nat.lt_of_lt_of_le (planned.block.known register (by simp [same]))
      planned.block.onward.registers
  have isHeld : (Registers.holding next.nextRegister existing
      (registers.held (existing.map (Register.further offset)))).held existing =
        registers.held (existing.map (Register.further offset)) := by
    cases existing with
    | none => rfl
    | some register => exact Registers.held_holding _ (known register rfl)
  have here : (Registers.holding next.nextRegister existing
      (registers.held (existing.map (Register.further offset)))).Open pass next :=
    Registers.holding_open _ fun register same => planned.block.known register (by simp [same])
  have ran := means _ here
  rw [isHeld] at ran
  rw [← ran, Program.moved, renameProgram_steps, renameProgram_result]
  refine planned.block.runTo_moved row offset (Or.inr ⟨planned.owned, planned.below⟩) here
    (by rw [← ends]; exact isOpen.fits) (by rw [← starts]; exact isOpen.blank)
    fun register member => ?_
  have isExisting := Option.mem_toList.mp member
  subst isExisting
  rw [Registers.holding_get _ (known register rfl), if_pos rfl]
  rfl

/-! ## Steps on a target -/

theorem Changes.congr {other : Value → Option Value}
    (changes : Changes row target pass steps next change)
    (same : ∀ value, change value = other value) : Changes row target pass steps next other :=
  fun registers isOpen => (changes registers isOpen).trans (same _)

theorem Changes.nil : Changes row target pass [] next some :=
  fun _ _ => rfl

theorem Changes.between {earlier later : Pass} (changes : Changes row target pass steps next change)
    (before : earlier.nextRegister ≤ pass.nextRegister)
    (behind : next.nextRegister ≤ later.nextRegister) :
    Changes row target earlier steps later change :=
  fun registers isOpen => changes registers (isOpen.between before behind)

theorem Block.exists_changes (row : Row) (block : Block [target] [target] pass steps next) :
    ∃ change, Changes row target pass steps next change := by
  have known : target < pass.nextRegister := block.known target (by simp)
  have inside := Nat.lt_of_lt_of_le known block.onward.registers
  refine ⟨fun value => runTo row (Registers.holding next.nextRegister (some target) value) steps
    target, fun registers isOpen => ?_⟩
  refine block.runTo_same (Or.inl (by simp))
    (Registers.holding_open _ (Register.known_existing rfl known)) isOpen fun register member => ?_
  obtain rfl := List.mem_singleton.mp member
  rw [Registers.holding_get _ inside, if_pos rfl]

theorem Changes.append {uses gives : List Register} (block : Block uses gives pass left middle)
    (changes : Changes row target pass left middle first)
    (behind : middle.nextRegister ≤ next.nextRegister)
    (changesMore : Changes row target middle right next second) :
    Changes row target pass (left ++ right) next fun value => (first value).bind second := by
  intro registers isOpen
  dsimp only
  refine runTo_then (changes registers (isOpen.upTo behind)) ?_ (fun failed => by rw [failed]; rfl)
  intro reached value ran isValue given
  rw [given, Option.bind_some, ← isValue]
  exact changesMore reached (isOpen.after block ran)

theorem Changes.combined {step : Step} (combine : Value → Value → Value)
    (planned : Planned none pass program next) (means : Means row none pass program next meaning)
    (known : target < pass.nextRegister)
    (changes : ∀ registers : Registers, runStep row registers step =
      .ok ((registers.take program.result).2.write target
        (combine ((registers.take program.result).2.get target)
          (registers.take program.result).1))) :
    Changes row target pass (program.steps ++ [step]) next
      fun value => (meaning .null).map (combine value) :=
  fun registers isOpen =>
    planned.combined_of combine (means registers isOpen) known (by simp) changes isOpen.fits

theorem Changes.assigned {field : String} (planned : Planned none pass program next)
    (means : Means row none pass program next meaning) (known : target < pass.nextRegister) :
    Changes row target pass (program.steps ++ [.assign target field program.result]) next
      fun value => (meaning .null).map (value.setField field) :=
  Changes.combined (fun held => held.setField field) planned means known
    fun registers => by rw [runStep]

theorem Changes.projected {field : String}
    (planned : Planned (some pass.nextRegister) pass.advanced program next)
    (means : Means row (some pass.nextRegister) pass.advanced program next meaning)
    (known : target < pass.nextRegister) :
    Changes row target pass
      (.project target field pass.nextRegister ::
        (program.steps ++ [.assign target field program.result])) next
      fun value => (meaning (value.field field)).map (value.setField field) := by
  intro registers isOpen
  have distinct : target ≠ pass.nextRegister := Nat.ne_of_lt known
  have older : pass.nextRegister + 1 ≤ next.nextRegister := planned.block.onward.registers
  have offered := isOpen.advanced ((registers.get target).field field)
  have assigns : ∀ registers : Registers, runStep row registers
        (.assign target field program.result) =
      .ok ((registers.take program.result).2.write target
        (((registers.take program.result).2.get target).setField field
          (registers.take program.result).1)) :=
    fun registers => by rw [runStep]
  have ran := planned.combined_of (fun held => held.setField field) (means _ offered)
    (Nat.lt_succ_of_lt known) (by simpa using distinct) assigns offered.fits
  have isHeld : (registers.write pass.nextRegister ((registers.get target).field field)).held
      (some pass.nextRegister) = (registers.get target).field field :=
    Registers.get_write_same (Nat.lt_of_lt_of_le older isOpen.fits)
  rw [Registers.get_write_other distinct, isHeld] at ran
  refine Eq.trans ?_ ran
  rw [runTo, runTo, runSteps, runStep]

end Meanings

/-! ## Plans -/

theorem Plan.run_means {row : Row} {pass next : Pass} {plan : Plan}
    {meaning : Value → Option Value}
    (means : Means row (some existingRegister) pass plan.program next meaning)
    (some : 0 < pass.nextRegister) (onward : pass.nextRegister ≤ next.nextRegister)
    (fits : next.nextRegister ≤ plan.registerCount) (existing : Value) :
    (plan.run row existing).toOption = meaning existing := by
  have ran := means _ (Registers.Open.start existing some fits)
  have isHeld : (Registers.start plan.registerCount existing).held (Option.some existingRegister) =
      existing :=
    Registers.get_start _ _ (Nat.lt_of_lt_of_le some (Nat.le_trans onward fits))
  rw [isHeld] at ran
  rw [← ran, Plan.run_outcome, ← runTo_result]

/-! ## Programs that come to the same -/

/-- On every file that is open between the passes both come to the same. -/
def Program.Alike (row : Row) (pass next : Pass) (program other : Program) : Prop :=
  ∀ registers : Registers, registers.Open pass next →
    runTo row registers other.steps other.result = runTo row registers program.steps program.result

namespace Program.Alike

variable {row : Row} {pass middle next : Pass} {program other third : Program}

theorem refl : Alike row pass next program program :=
  fun _ _ => rfl

theorem trans (first : Alike row pass next program other)
    (second : Alike row pass next other third) : Alike row pass next program third :=
  fun registers isOpen => (second registers isOpen).trans (first registers isOpen)

theorem between {earlier later : Pass} (alike : Alike row pass next program other)
    (before : earlier.nextRegister ≤ pass.nextRegister)
    (behind : next.nextRegister ≤ later.nextRegister) : Alike row earlier later program other :=
  fun registers isOpen => alike registers (isOpen.between before behind)

theorem means {existing : Option Register} {meaning : Value → Option Value}
    (alike : Alike row pass next program other)
    (means : Means row existing pass program next meaning) :
    Means row existing pass other next meaning :=
  fun registers isOpen => (alike registers isOpen).trans (means registers isOpen)

/-! ## Steps on a target -/

section Targets

variable {target : Register} {steps others left right leftOther rightOther : List Step}
variable {change : Value → Option Value}

theorem of_changes (changes : Changes row target pass steps next change)
    (same : Changes row target pass others next change) :
    Alike row pass next ⟨steps, target⟩ ⟨others, target⟩ :=
  fun registers isOpen => (same registers isOpen).trans (changes registers isOpen).symm

theorem changes (alike : Alike row pass next ⟨steps, target⟩ ⟨others, target⟩)
    (changes : Changes row target pass steps next change) :
    Changes row target pass others next change :=
  fun registers isOpen => (alike registers isOpen).trans (changes registers isOpen)

theorem append (block : Block [target] [target] pass left middle)
    (blockOther : Block [target] [target] pass leftOther middle)
    (later : Block [target] [target] middle right next)
    (first : Alike row pass middle ⟨left, target⟩ ⟨leftOther, target⟩)
    (second : Alike row middle next ⟨right, target⟩ ⟨rightOther, target⟩) :
    Alike row pass next ⟨left ++ right, target⟩ ⟨leftOther ++ rightOther, target⟩ := by
  obtain ⟨change, here⟩ := block.exists_changes row
  obtain ⟨more, there⟩ := later.exists_changes row
  have behind := later.onward.registers
  exact of_changes (here.append block behind there)
    ((first.changes here).append blockOther behind (second.changes there))

theorem filled {existing : Option Register} {start startOther : Program}
    (planned : Planned existing pass start middle)
    (plannedOther : Planned existing pass startOther middle)
    (sameResult : startOther.result = start.result)
    (block : Block [start.result] [start.result] middle steps next)
    (starts : Alike row pass middle start startOther)
    (fills : Alike row middle next ⟨steps, start.result⟩ ⟨others, start.result⟩) :
    Alike row pass next ⟨start.steps ++ steps, start.result⟩
      ⟨startOther.steps ++ others, startOther.result⟩ := by
  obtain ⟨meaning, means⟩ := planned.exists_means row
  obtain ⟨change, changes⟩ := block.exists_changes row
  have behind := block.onward.registers
  have changesOther := fills.changes changes
  rw [← sameResult] at changesOther
  intro registers isOpen
  exact (Means.filled plannedOther (starts.means means) behind changesOther registers isOpen).trans
    (Means.filled planned means behind changes registers isOpen).symm

end Targets

/-! ## Programs within steps -/

theorem reuse {existing into : Register} {expectation : Expectation}
    {update updateOther create createOther : Program} (inside : into < next.nextRegister)
    (updates : Alike row pass next update updateOther)
    (creates : Alike row pass next create createOther) :
    Alike row pass next
      (single (.reuse existing expectation update create into) into)
      (single (.reuse existing expectation updateOther createOther into) into) := by
  intro registers isOpen
  have inFile := Nat.lt_of_lt_of_le inside isOpen.fits
  rw [runTo_result, runTo_result]
  by_cases accepted : expectation.accepts (registers.get existing) = true
  · rw [Program.outcome_within (by rw [runStep, if_pos accepted]) inFile,
      Program.outcome_within (by rw [runStep, if_pos accepted]) inFile, ← runTo_result,
      ← runTo_result]
    exact updates registers isOpen
  · rw [Program.outcome_within (by rw [runStep, if_neg accepted]) inFile,
      Program.outcome_within (by rw [runStep, if_neg accepted]) inFile, ← runTo_result,
      ← runTo_result]
    exact creates registers isOpen

theorem select {branches : List Branch} {fallback fallbackOther : Program} {into : Register}
    (inside : into < next.nextRegister) (falls : Alike row pass next fallback fallbackOther) :
    Alike row pass next (single (.select branches fallback into) into)
      (single (.select branches fallbackOther into) into) := by
  intro registers isOpen
  have inFile := Nat.lt_of_lt_of_le inside isOpen.fits
  rw [runTo_result, runTo_result, Program.outcome_select inFile, Program.outcome_select inFile]
  cases branches.find? fun branch => branch.accepts row with
  | some branch => rfl
  | none =>
      dsimp only
      rw [← runTo_result, ← runTo_result]
      exact falls registers isOpen

end Program.Alike

end Unflatten
