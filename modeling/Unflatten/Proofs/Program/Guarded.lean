import Unflatten.Proofs.Program.RunFrame

/-!
# Guarded runs

An ordinary run takes a register outside of the file for null and drops what is written there. A
guarded run stops at such an access. The span of a program covers every register in it, on whichever
path, so the guarded run of a plan never stops and has the outcome of the ordinary run. Only behind
the last machine word there is no register to count up to.
-/

set_option autoImplicit false

namespace Unflatten

/-! ## Guarded accesses -/

namespace Registers

def get? (registers : Registers) (register : Register) : Option Value :=
  registers[register]?

def write? (registers : Registers) (register : Register) (value : Value) : Option Registers :=
  if register < registers.size then some (registers.write register value) else none

def take? (registers : Registers) (register : Register) : Option (Value × Registers) :=
  match registers.get? register with
  | some value => (registers.write? register .null).map fun left => (value, left)
  | none => none

def takeAll? (registers : Registers) : List Register → Option (List Value × Registers)
  | [] => some ([], registers)
  | register :: rest =>
    match registers.take? register with
    | some (value, left) => (takeAll? left rest).map fun others => (value :: others.1, others.2)
    | none => none

def move? (registers : Registers) (source into : Register) : Option Registers :=
  match registers.take? source with
  | some (value, left) => left.write? into value
  | none => none

/-- Takes the value of `source` and changes the one of `target` with it. -/
def combine? (registers : Registers) (source target : Register) (change : Value → Value → Value) :
    Option Registers :=
  match registers.take? source with
  | some (item, left) =>
    match left.get? target with
    | some value => left.write? target (change value item)
    | none => none
  | none => none

def writeOutcome? (registers : Registers) (into : Register) :
    Except Failure Value → Option (Except Failure Registers)
  | .ok value => (registers.write? into value).map .ok
  | .error failure => some (.error failure)

end Registers

mutual

/-- `none` where the step accesses a register outside of the file. -/
def guardedStep (row : Row) (registers : Registers) : Step → Option (Except Failure Registers)
  | .read column conversion into =>
    registers.writeOutcome? into (readColumn row column conversion)
  | .constant value into => registers.writeOutcome? into (.ok value)
  | .construct type constructor arguments into =>
    match registers.takeAll? arguments with
    | some (values, left) =>
      left.writeOutcome? into (.ok (constructor.construct type values).toValue)
    | none => none
  | .produce factory into => registers.writeOutcome? into (produceInstance row factory)
  | .reuse existing expectation update create into =>
    match registers.get? existing with
    | some value =>
      if expectation.accepts value then guardedInto row registers update into
      else guardedInto row registers create into
    | none => none
  | .project source field into =>
    match registers.get? source with
    | some value => registers.writeOutcome? into (.ok (value.field field))
    | none => none
  | .assign target field source =>
    (registers.combine? source target fun value item => value.setField field item).map .ok
  | .startSequence type into => registers.writeOutcome? into (newSequence type)
  | .addItem type target item => (registers.combine? item target (addItem type)).map .ok
  | .startMap type into => registers.writeOutcome? into (newMap type)
  | .addEntry type target key item =>
    (registers.combine? item target fun value => insertItem type value key).map .ok
  | .pack form items into =>
    match registers.takeAll? items with
    | some (values, left) => left.writeOutcome? into (.ok (.sequence form values))
    | none => none
  | .select branches fallback into =>
    match guardedBranches row registers branches into with
    | some outcome => outcome
    | none => guardedInto row registers fallback into
  | .fail failure => some (.error failure)

def guardedSteps (row : Row) (registers : Registers) :
    List Step → Option (Except Failure Registers)
  | [] => some (.ok registers)
  | step :: rest =>
    match guardedStep row registers step with
    | some (.ok next) => guardedSteps row next rest
    | some (.error failure) => some (.error failure)
    | none => none

def guardedInto (row : Row) (registers : Registers) :
    ProgramOf Step → Register → Option (Except Failure Registers)
  | ⟨steps, result⟩, into =>
    match guardedSteps row registers steps with
    | some (.ok next) => (next.move? result into).map .ok
    | some (.error failure) => some (.error failure)
    | none => none

def guardedBranches (row : Row) (registers : Registers) :
    List (BranchOf Step) → Register → Option (Option (Except Failure Registers))
  | [], _ => none
  | ⟨accepts, _, program⟩ :: rest, into =>
    if accepts row then some (guardedInto row registers program into)
    else guardedBranches row registers rest into

end

namespace Registers

variable {registers : Registers} {register source target into : Register} {value : Value}

theorem get?_of_lt (inside : register < registers.size) :
    registers.get? register = some (registers.get register) := by
  simp [get?, get, inside]

theorem write?_of_lt (inside : register < registers.size) :
    registers.write? register value = some (registers.write register value) :=
  if_pos inside

theorem size_take : (registers.take register).2.size = registers.size :=
  size_write

theorem take?_of_lt (inside : register < registers.size) :
    registers.take? register = some (registers.take register) := by
  rw [take?, get?_of_lt inside]
  dsimp only
  rw [write?_of_lt inside]
  rfl

theorem takeAll?_of_lt {taken : List Register}
    (inside : ∀ register ∈ taken, register < registers.size) :
    registers.takeAll? taken = some (registers.takeAll taken) := by
  induction taken generalizing registers with
  | nil => rfl
  | cons first rest ih =>
      obtain ⟨here, behind⟩ := List.forall_mem_cons.mp inside
      have within : ∀ register ∈ rest, register < (registers.take first).2.size := by
        simpa only [size_take] using behind
      rw [takeAll?, take?_of_lt here]
      dsimp only
      rw [ih within]
      rfl

theorem move?_of_lt (reads : source < registers.size) (inside : into < registers.size) :
    registers.move? source into = some (registers.move source into) := by
  have kept : into < (registers.take source).2.size := by rwa [size_take]
  rw [move?, take?_of_lt reads]
  exact write?_of_lt kept

theorem combine?_of_lt {change : Value → Value → Value} (reads : source < registers.size)
    (inside : target < registers.size) :
    registers.combine? source target change =
      some ((registers.take source).2.write target
        (change ((registers.take source).2.get target) (registers.take source).1)) := by
  have kept : target < (registers.take source).2.size := by rwa [size_take]
  rw [combine?, take?_of_lt reads]
  dsimp only
  rw [get?_of_lt kept]
  exact write?_of_lt kept

theorem writeOutcome?_of_lt {outcome : Except Failure Value} (inside : into < registers.size) :
    registers.writeOutcome? into outcome = some (writeOutcome registers into outcome) := by
  cases outcome with
  | error failure => rfl
  | ok value =>
      rw [writeOutcome?, write?_of_lt inside]
      rfl

theorem takeAll?_writeOutcome? {taken : List Register} {build : List Value → Value}
    (inside : ∀ register ∈ taken ++ [into], register < registers.size) :
    (match registers.takeAll? taken with
      | some (values, left) => left.writeOutcome? into (.ok (build values))
      | none => none) =
      some (.ok ((registers.takeAll taken).2.write into (build (registers.takeAll taken).1))) := by
  have reads : ∀ register ∈ taken, register < registers.size :=
    fun register member => inside register (List.mem_append_left _ member)
  have writes : into < (registers.takeAll taken).2.size := by
    rw [size_takeAll]
    exact inside into (by simp)
  rw [takeAll?_of_lt reads]
  exact writeOutcome?_of_lt writes

end Registers

/-! ## Runs within the file -/

mutual

theorem guardedStep_eq (row : Row) {registers : Registers} :
    ∀ step : Step, (∀ register ∈ step.registers, register < registers.size) →
      guardedStep row registers step = some (runStep row registers step)
  | .read column conversion into, fits =>
    Registers.writeOutcome?_of_lt (fits into (by simp [Step.registers]))
  | .constant value into, fits => by
    rw [guardedStep, runStep]
    exact Registers.writeOutcome?_of_lt (fits into (by simp [Step.registers]))
  | .construct type constructor arguments into, fits =>
    Registers.takeAll?_writeOutcome? fun register member =>
      fits register (by rwa [Step.registers])
  | .produce factory into, fits =>
    Registers.writeOutcome?_of_lt (fits into (by simp [Step.registers]))
  | .reuse existing expectation update create into, fits => by
    have own : into < registers.size := fits into (by simp [Step.registers])
    rw [guardedStep, runStep, Registers.get?_of_lt (fits existing (by simp [Step.registers]))]
    dsimp only
    split
    · exact guardedInto_eq row update into
        (fun register member => fits register (by simp [Step.registers, member])) own
    · exact guardedInto_eq row create into
        (fun register member => fits register (by simp [Step.registers, member])) own
  | .project source field into, fits => by
    rw [guardedStep, runStep, Registers.get?_of_lt (fits source (by simp [Step.registers]))]
    exact Registers.writeOutcome?_of_lt (fits into (by simp [Step.registers]))
  | .assign target field source, fits => by
    rw [guardedStep, runStep, Registers.combine?_of_lt (fits source (by simp [Step.registers]))
      (fits target (by simp [Step.registers]))]
    rfl
  | .startSequence type into, fits =>
    Registers.writeOutcome?_of_lt (fits into (by simp [Step.registers]))
  | .addItem type target item, fits => by
    rw [guardedStep, runStep, Registers.combine?_of_lt (fits item (by simp [Step.registers]))
      (fits target (by simp [Step.registers]))]
    rfl
  | .startMap type into, fits =>
    Registers.writeOutcome?_of_lt (fits into (by simp [Step.registers]))
  | .addEntry type target key item, fits => by
    rw [guardedStep, runStep, Registers.combine?_of_lt (fits item (by simp [Step.registers]))
      (fits target (by simp [Step.registers]))]
    rfl
  | .pack form items into, fits =>
    Registers.takeAll?_writeOutcome? fun register member =>
      fits register (by rwa [Step.registers])
  | .select branches fallback into, fits => by
    have own : into < registers.size := fits into (by simp [Step.registers])
    rw [guardedStep, runStep, guardedBranches_eq row branches into
      (fun register member => fits register (by simp [Step.registers, member])) own]
    cases runBranches row registers branches into with
    | some outcome => rfl
    | none =>
        exact guardedInto_eq row fallback into
          (fun register member => fits register (by simp [Step.registers, member])) own
  | .fail failure, _ => rfl

theorem guardedSteps_eq (row : Row) {registers : Registers} :
    ∀ steps : List Step, (∀ register ∈ stepsRegisters steps, register < registers.size) →
      guardedSteps row registers steps = some (runSteps row registers steps)
  | [], _ => rfl
  | step :: rest, fits => by
    rw [stepsRegisters, List.forall_mem_append] at fits
    rw [guardedSteps, runSteps, guardedStep_eq row step fits.1]
    cases ran : runStep row registers step with
    | error failure => rfl
    | ok next =>
        -- a step keeps the size of the file, so the later steps fit as well
        have kept := (runStep_frame row step ran).size
        exact guardedSteps_eq row rest (kept ▸ fits.2)

theorem guardedInto_eq (row : Row) {registers : Registers} :
    ∀ (program : ProgramOf Step) (into : Register),
      (∀ register ∈ programRegisters program, register < registers.size) →
      into < registers.size →
      guardedInto row registers program into = some (runInto row registers program into)
  | ⟨steps, result⟩, into, fits, inside => by
    rw [programRegisters, List.forall_mem_append, List.forall_mem_singleton] at fits
    rw [guardedInto, runInto, guardedSteps_eq row steps fits.1]
    cases ran : runSteps row registers steps with
    | error failure => rfl
    | ok next =>
        have kept := (runSteps_frame row steps ran).size
        dsimp only
        rw [Registers.move?_of_lt (kept ▸ fits.2) (kept ▸ inside)]
        rfl

theorem guardedBranches_eq (row : Row) {registers : Registers} :
    ∀ (branches : List (BranchOf Step)) (into : Register),
      (∀ register ∈ branchRegisters branches, register < registers.size) →
      into < registers.size →
      guardedBranches row registers branches into =
        (runBranches row registers branches into).map some
  | [], _, _, _ => rfl
  | ⟨accepts, label, program⟩ :: rest, into, fits, inside => by
    rw [branchRegisters, List.forall_mem_append] at fits
    rw [guardedBranches, runBranches]
    split
    · rw [guardedInto_eq row program into fits.1 inside]
      rfl
    · exact guardedBranches_eq row rest into fits.2 inside

end

theorem Register.next_of_lt {register : Register} (small : register < last) :
    next register = register + 1 :=
  Nat.mod_eq_of_lt (Nat.succ_lt_succ small)

theorem le_greatestRegister {start register : Register} {registers : List Register}
    (member : register ≤ start ∨ register ∈ registers) :
    register ≤ greatestRegister start registers := by
  unfold greatestRegister
  induction registers generalizing start with
  | nil =>
      rcases member with below | member
      · exact below
      · cases member
  | cons first rest ih =>
      rw [List.foldl_cons]
      apply ih
      rcases member with below | member
      · exact Or.inl (Nat.le_trans below (Nat.le_max_left start first))
      · rcases List.mem_cons.mp member with rfl | member
        · exact Or.inl (Nat.le_max_right start register)
        · exact Or.inr member

theorem greatestRegister_lt {start bound : Register} {registers : List Register}
    (small : ∀ register ∈ registers ++ [start], register < bound) :
    greatestRegister start registers < bound := by
  rw [List.forall_mem_append, List.forall_mem_singleton] at small
  obtain ⟨others, first⟩ := small
  exact List.foldlRecOn (motive := (· < bound)) registers max first fun _ below register member =>
    Nat.max_lt.mpr ⟨below, others register member⟩

theorem Register.lt_next {register greatest : Register} (below : register ≤ greatest)
    (small : greatest < last) : register < next greatest := by
  rw [next_of_lt small]
  exact Nat.lt_succ_of_le below

theorem greatestRegister_covers {start register : Register} {registers : List Register}
    (small : ∀ register ∈ registers ++ [start], register < Register.last)
    (member : register ∈ registers ++ [start]) :
    register < Register.next (greatestRegister start registers) := by
  refine Register.lt_next (le_greatestRegister ?_) (greatestRegister_lt small)
  rcases List.mem_append.mp member with member | member
  · exact Or.inr member
  · exact Or.inl (Nat.le_of_eq (List.mem_singleton.mp member))

mutual

theorem Step.registers_lt_span : ∀ step : Step,
    (∀ register ∈ step.registers, register < Register.last) →
    ∀ register ∈ step.registers, register < step.span
  | .read _ _ into, small, register, member | .constant _ into, small, register, member
  | .produce _ into, small, register, member | .startSequence _ into, small, register, member
  | .startMap _ into, small, register, member => by
    rw [Step.span]
    obtain rfl := List.mem_singleton.mp member
    exact Register.lt_next (Nat.le_refl _) (small register member)
  | .construct _ _ arguments into, small, register, member
  | .pack _ arguments into, small, register, member => by
    rw [Step.span]
    exact greatestRegister_covers small member
  | .reuse existing _ update create into, small, register, member => by
    have inUpdate := programRegisters_lt_span update
    have inCreate := programRegisters_lt_span create
    simp only [Step.registers, List.cons_append, List.mem_cons, List.mem_append,
      List.not_mem_nil, or_false] at small member
    have own := Nat.max_lt.mpr
      ⟨small existing (Or.inl rfl), small into (Or.inr (Or.inr rfl))⟩
    rw [Step.span]
    rcases member with rfl | (member | member) | rfl
    · exact Nat.lt_of_lt_of_le (Register.lt_next (Nat.le_max_left _ _) own) (Nat.le_max_left _ _)
    · have := inUpdate (fun other inside => small other (Or.inr (Or.inl (Or.inl inside)))) register
        member
      lia
    · have := inCreate (fun other inside => small other (Or.inr (Or.inl (Or.inr inside)))) register
        member
      lia
    · exact Nat.lt_of_lt_of_le (Register.lt_next (Nat.le_max_right _ _) own) (Nat.le_max_left _ _)
  | .project first _ second, small, register, member | .assign first _ second, small, register, member
  | .addItem _ first second, small, register, member
  | .addEntry _ first _ second, small, register, member => by
    simp only [Step.registers, List.mem_cons, List.not_mem_nil, or_false] at small member
    rw [Step.span]
    refine Register.lt_next ?_
      (Nat.max_lt.mpr ⟨small first (Or.inl rfl), small second (Or.inr rfl)⟩)
    rcases member with rfl | rfl
    · exact Nat.le_max_left _ _
    · exact Nat.le_max_right _ _
  | .select branches fallback into, small, register, member => by
    have inBranches := branchRegisters_lt_span branches
    have inFallback := programRegisters_lt_span fallback
    simp only [Step.registers, List.mem_append, List.mem_singleton] at small member
    rw [Step.span]
    rcases member with (member | member) | rfl
    · have := inBranches (fun other inside => small other (Or.inl (Or.inl inside))) register member
      lia
    · have := inFallback (fun other inside => small other (Or.inl (Or.inr inside))) register member
      lia
    · exact Nat.lt_of_lt_of_le (Register.lt_next (Nat.le_refl _) (small register (Or.inr rfl)))
        (Nat.le_max_left _ _)
  | .fail _, _, _, member => by cases member

theorem stepsRegisters_lt_span :
    ∀ steps : List Step, (∀ register ∈ stepsRegisters steps, register < Register.last) →
      ∀ register ∈ stepsRegisters steps, register < stepsSpan steps
  | [], _, _, member => by cases member
  | step :: rest, small, register, member => by
    rw [stepsRegisters, List.forall_mem_append] at small
    rw [stepsRegisters] at member
    rw [stepsSpan]
    rcases List.mem_append.mp member with member | member
    · have := step.registers_lt_span small.1 register member
      lia
    · have := stepsRegisters_lt_span rest small.2 register member
      lia

theorem programRegisters_lt_span :
    ∀ program : ProgramOf Step, (∀ register ∈ programRegisters program, register < Register.last) →
      ∀ register ∈ programRegisters program, register < programSpan program
  | ⟨steps, result⟩, small, register, member => by
    rw [programRegisters, List.forall_mem_append, List.forall_mem_singleton] at small
    rw [programRegisters] at member
    rw [programSpan]
    rcases List.mem_append.mp member with member | member
    · have := stepsRegisters_lt_span steps small.1 register member
      lia
    · obtain rfl := List.mem_singleton.mp member
      exact Nat.lt_of_lt_of_le (Register.lt_next (Nat.le_refl _) small.2) (Nat.le_max_left _ _)

theorem branchRegisters_lt_span :
    ∀ branches : List (BranchOf Step),
      (∀ register ∈ branchRegisters branches, register < Register.last) →
      ∀ register ∈ branchRegisters branches, register < branchSpan branches
  | [], _, _, member => by cases member
  | ⟨_, _, program⟩ :: rest, small, register, member => by
    rw [branchRegisters, List.forall_mem_append] at small
    rw [branchRegisters] at member
    rw [branchSpan]
    rcases List.mem_append.mp member with member | member
    · have := programRegisters_lt_span program small.1 register member
      lia
    · have := branchRegisters_lt_span rest small.2 register member
      lia

end

namespace Plan

end Plan

end Unflatten
