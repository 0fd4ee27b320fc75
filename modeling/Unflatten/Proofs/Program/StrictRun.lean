import Unflatten.Proofs.Program.Ledger

/-!
# Strict runs

A strict run keeps only the values that are really there: a register that has not been written, or
whose value has been taken, holds nothing, and to need it stops the run. Where a ledger allows every
path of a program, the strict run never stops so, and the ordinary run has the same outcome: it
never reads a null that only stands for a missing value.
-/

set_option autoImplicit false

namespace Unflatten

abbrev Stock := Register → Option Value

namespace Stock

def start (existing : Value) : Stock :=
  fun register => if register = existingRegister then some existing else none

def put (stock : Stock) (register : Register) (held : Option Value) : Stock :=
  fun other => if other = register then held else stock other

def take? (stock : Stock) (register : Register) : Option (Value × Stock) :=
  match stock register with
  | some value => some (value, stock.put register none)
  | none => none

def takeAll? (stock : Stock) : List Register → Option (List Value × Stock)
  | [] => some ([], stock)
  | register :: rest =>
    match stock.take? register with
    | some (value, next) =>
      match takeAll? next rest with
      | some (values, last) => some (value :: values, last)
      | none => none
    | none => none

/-- Takes the value of `source` and changes the one of `target` with it. -/
def combine? (stock : Stock) (source target : Register) (change : Value → Value → Value) :
    Option Stock :=
  match stock.take? source with
  | some (item, next) =>
    match next target with
    | some value => some (next.put target (some (change value item)))
    | none => none
  | none => none

def move? (stock : Stock) (source into : Register) : Option Stock :=
  match stock.take? source with
  | some (value, next) => some (next.put into (some value))
  | none => none

def putOutcome (stock : Stock) (into : Register) (outcome : Except Failure Value) :
    Except Failure Stock :=
  outcome.map fun value => stock.put into (some value)

end Stock

mutual

/-- `none` where the step needs a register that holds nothing. -/
def strictStep (row : Row) (stock : Stock) : Step → Option (Except Failure Stock)
  | .read column conversion into =>
    some (stock.putOutcome into (readColumn row column conversion))
  | .constant value into => some (.ok (stock.put into (some value)))
  | .construct type constructor arguments into =>
    (stock.takeAll? arguments).map fun taken =>
      .ok (taken.2.put into (some (constructor.construct type taken.1).toValue))
  | .produce factory into => some (stock.putOutcome into (produceInstance row factory))
  | .reuse existing expectation update create into =>
    match stock existing with
    | some value =>
      if expectation.accepts value then strictInto row stock update into
      else strictInto row stock create into
    | none => none
  | .project source field into =>
    (stock source).map fun value => .ok (stock.put into (some (value.field field)))
  | .assign target field source =>
    (stock.combine? source target fun value item => value.setField field item).map .ok
  | .startSequence type into => some (stock.putOutcome into (newSequence type))
  | .addItem type target item => (stock.combine? item target (addItem type)).map .ok
  | .startMap type into => some (stock.putOutcome into (newMap type))
  | .addEntry type target key item =>
    (stock.combine? item target fun value => insertItem type value key).map .ok
  | .pack form items into =>
    (stock.takeAll? items).map fun taken =>
      .ok (taken.2.put into (some (.sequence form taken.1)))
  | .select branches fallback into =>
    match strictBranches row stock branches into with
    | some outcome => outcome
    | none => strictInto row stock fallback into
  | .fail failure => some (.error failure)

def strictSteps (row : Row) (stock : Stock) : List Step → Option (Except Failure Stock)
  | [] => some (.ok stock)
  | step :: rest =>
    match strictStep row stock step with
    | some (.ok next) => strictSteps row next rest
    | some (.error failure) => some (.error failure)
    | none => none

def strictInto (row : Row) (stock : Stock) :
    ProgramOf Step → Register → Option (Except Failure Stock)
  | ⟨steps, result⟩, into =>
    match strictSteps row stock steps with
    | some (.ok next) => (next.move? result into).map .ok
    | some (.error failure) => some (.error failure)
    | none => none

def strictBranches (row : Row) (stock : Stock) :
    List (BranchOf Step) → Register → Option (Option (Except Failure Stock))
  | [], _ => none
  | ⟨accepts, _, program⟩ :: rest, into =>
    if accepts row then some (strictInto row stock program into)
    else strictBranches row stock rest into

end

def Plan.runStrict (plan : Plan) (row : Row) (existing : Value) :
    Option (Except Failure Value) :=
  match strictSteps row (Stock.start existing) plan.program.steps with
  | some (.ok stock) => (stock plan.program.result).map .ok
  | some (.error failure) => some (.error failure)
  | none => none

/-! ## Registers -/

namespace Registers

variable {registers : Registers} {register other : Register} {value : Value}

theorem size_write : (registers.write register value).size = registers.size := by
  simp [write]

theorem get_write_same (inside : register < registers.size) :
    (registers.write register value).get register = value := by
  simp [get, write, inside]

theorem get_write_other (distinct : other ≠ register) :
    (registers.write register value).get other = registers.get other := by
  simp [get, write, Ne.symm distinct]

theorem size_takeAll {taken : List Register} :
    (registers.takeAll taken).2.size = registers.size := by
  induction taken generalizing registers with
  | nil => rfl
  | cons first rest ih =>
      rw [takeAll]
      simp only [ih, take, size_write]

end Registers

/-! ## Following a ledger -/

/-- The full registers hold their values, the others nothing. -/
def Tracks (ledger : Ledger) (stock : Stock) (registers : Registers) : Prop :=
  ∀ register,
    stock register =
      if ledger.content register = .full then some (registers.get register) else none

namespace Tracks

variable {ledger next : Ledger} {stock : Stock} {registers : Registers} {register : Register}

theorem held (tracks : Tracks ledger stock registers)
    (full : ledger.content register = .full) : stock register = some (registers.get register) := by
  rw [tracks register, if_pos full]

theorem write {value : Value} (tracks : Tracks ledger stock registers)
    (inside : register < registers.size) :
    Tracks (ledger.put register .full) (stock.put register (some value))
      (registers.write register value) := by
  intro other
  by_cases same : other = register
  · subst same
    simp [Stock.put, Ledger.put_same, Registers.get_write_same inside]
  · rw [Ledger.put_other same, Registers.get_write_other same]
    simp [Stock.put, same, tracks other]

theorem change {value : Value} (tracks : Tracks ledger stock registers)
    (full : ledger.content register = .full) (inside : register < registers.size) :
    Tracks ledger (stock.put register (some value)) (registers.write register value) := by
  intro other
  by_cases same : other = register
  · subst same
    simp [Stock.put, full, Registers.get_write_same inside]
  · rw [Registers.get_write_other same]
    simp [Stock.put, same, tracks other]

theorem take (tracks : Tracks ledger stock registers)
    (full : ledger.content register = .full) :
    ∃ left, stock.take? register = some (registers.get register, left) ∧
      Tracks (ledger.put register .spent) left (registers.take register).2 := by
  refine ⟨stock.put register none, by rw [Stock.take?, tracks.held full], ?_⟩
  intro other
  by_cases same : other = register
  · subst same
    simp [Stock.put, Ledger.put_same]
  · simp only [Registers.take]
    rw [Ledger.put_other same, Registers.get_write_other same]
    simp [Stock.put, same, tracks other]

theorem takeAll {taken : List Register} (tracks : Tracks ledger stock registers)
    (performed : ledger.performAll? (taken.map .take) = some next) :
    ∃ left, stock.takeAll? taken = some ((registers.takeAll taken).1, left) ∧
      Tracks next left (registers.takeAll taken).2 := by
  induction taken generalizing ledger stock registers with
  | nil =>
      cases performed
      exact ⟨stock, rfl, tracks⟩
  | cons first rest ih =>
      obtain ⟨between, isTaken, later⟩ := Ledger.performAll?_cons.mp performed
      obtain ⟨full, rfl⟩ := Ledger.perform?_take.mp isTaken
      obtain ⟨left, found, follows⟩ := tracks.take full
      obtain ⟨last, foundRest, ends⟩ := ih follows later
      refine ⟨last, ?_, ends⟩
      rw [Stock.takeAll?, found]
      simp only [foundRest]
      rfl

theorem combine {source target : Register} {change : Value → Value → Value}
    (tracks : Tracks ledger stock registers) (inside : target < registers.size)
    (performed : ledger.performAll? [.take source, .amend target] = some next) :
    ∃ left, stock.combine? source target change = some left ∧
      Tracks next left
        ((registers.take source).2.write target
          (change ((registers.take source).2.get target) (registers.take source).1)) := by
  obtain ⟨between, isTaken, later⟩ := Ledger.performAll?_cons.mp performed
  obtain ⟨full, rfl⟩ := Ledger.perform?_take.mp isTaken
  obtain ⟨last, isAmended, ended⟩ := Ledger.performAll?_cons.mp later
  obtain ⟨targetFull, rfl⟩ := Ledger.perform?_amend.mp isAmended
  cases ended
  obtain ⟨left, found, follows⟩ := tracks.take full
  have insideLeft : target < (registers.take source).2.size := by
    simpa [Registers.take, Registers.size_write] using inside
  refine ⟨_, ?_, follows.change targetFull insideLeft⟩
  rw [Stock.combine?, found]
  simp only [follows.held targetFull]
  rfl

end Tracks

/-- The outcomes of a strict and of an ordinary run. -/
inductive Matches (after : Ledger → Prop) (size : Nat) :
    Option (Except Failure Stock) → Except Failure Registers → Prop where
  | ok {ledger : Ledger} {stock : Stock} {registers : Registers} (reached : after ledger)
      (tracks : Tracks ledger stock registers) (kept : registers.size = size) :
      Matches after size (some (.ok stock)) (.ok registers)
  | error (failure : Failure) : Matches after size (some (.error failure)) (.error failure)

/-! ## Every program has a path -/

theorem Path.along_ne_nil {first second : List Path} (some : first ≠ []) (more : second ≠ []) :
    along first second ≠ [] := by
  cases first with
  | nil => exact absurd rfl some
  | cons path rest =>
      obtain ⟨actions, fails⟩ := path
      cases fails with
      | true => simp [along, followedBy]
      | false => simp [along, followedBy, more]

mutual

theorem Step.paths_ne_nil : ∀ step : Step, step.paths ≠ []
  | .read .. | .constant .. | .construct .. | .produce .. | .project .. | .assign ..
  | .startSequence .. | .addItem .. | .startMap .. | .addEntry .. | .pack .. | .fail .. => by
    simp [Step.paths]
  | .reuse existing expectation update create into => by
    rw [Step.paths]
    exact Path.along_ne_nil (by simp) (by simp [intoPaths_ne_nil update into])
  | .select branches fallback into => by
    rw [Step.paths]
    simp [intoPaths_ne_nil fallback into]

theorem stepsPaths_ne_nil : ∀ steps : List Step, stepsPaths steps ≠ []
  | [] => by simp [stepsPaths]
  | step :: rest => by
    rw [stepsPaths]
    exact Path.along_ne_nil step.paths_ne_nil (stepsPaths_ne_nil rest)

theorem intoPaths_ne_nil : ∀ (program : ProgramOf Step) (into : Register),
    intoPaths program into ≠ []
  | ⟨steps, _⟩, _ => by
    rw [intoPaths]
    exact Path.along_ne_nil (stepsPaths_ne_nil steps) (by simp)

end

namespace Ledger

variable {ledger : Ledger} {first second : List Path} {after : Ledger → Prop}

theorem Allows.split (allowed : ledger.Allows (Path.along first second) after)
    (more : second ≠ []) :
    ledger.Allows first fun between => between.Allows second after := by
  intro path member
  have followed (later : Path) (isLater : later ∈ path.followedBy second) :
      ∃ final, ledger.performAll? later.actions = some final ∧
        (later.fails = false → after final) :=
    allowed later (List.mem_flatMap.mpr ⟨path, member, isLater⟩)
  obtain ⟨actions, fails⟩ := path
  cases fails with
  | true =>
      obtain ⟨final, performed, -⟩ := followed ⟨actions, true⟩ (by simp [Path.followedBy])
      exact ⟨final, performed, fun through => absurd through (by simp)⟩
  | false =>
      obtain ⟨one, isOne⟩ := List.exists_mem_of_ne_nil second more
      have continues {later : Path} (isLater : later ∈ second) :
          ∃ between, ledger.performAll? actions = some between ∧
            ∃ final, between.performAll? later.actions = some final ∧
              (later.fails = false → after final) := by
        obtain ⟨final, performed, holds⟩ :=
          followed ⟨actions ++ later.actions, later.fails⟩
            (by simpa [Path.followedBy] using ⟨later, isLater, rfl, rfl⟩)
        obtain ⟨between, reached, finished⟩ := performAll?_append.mp performed
        exact ⟨between, reached, final, finished, holds⟩
      obtain ⟨between, reached, -⟩ := continues isOne
      refine ⟨between, reached, fun _ later isLater => ?_⟩
      obtain ⟨again, same, final, finished, holds⟩ := continues isLater
      obtain rfl : between = again := Option.some.inj (reached.symm.trans same)
      exact ⟨final, finished, holds⟩

theorem Allows.left (allowed : ledger.Allows (first ++ second) after) :
    ledger.Allows first after :=
  fun path member => allowed path (List.mem_append_left second member)

theorem Allows.right (allowed : ledger.Allows (first ++ second) after) :
    ledger.Allows second after :=
  fun path member => allowed path (List.mem_append_right first member)

end Ledger

/-! ## Strict and ordinary runs agree -/

section Agreement

variable {row : Row} {ledger middle : Ledger} {stock : Stock} {registers : Registers}
variable {after : Ledger → Prop} {into : Register} {size : Nat}

theorem Ledger.Allows.beforeWrite (actions : List Action)
    (allowed : ledger.Allows [⟨actions ++ [.write into], false⟩] after) :
    ∃ middle, ledger.performAll? actions = some middle ∧ after (middle.put into .full) := by
  obtain ⟨final, performed, holds⟩ := Ledger.allows_single.mp allowed
  obtain ⟨middle, reached, later⟩ := Ledger.performAll?_append.mp performed
  obtain ⟨last, written, ended⟩ := Ledger.performAll?_cons.mp later
  obtain ⟨-, rfl⟩ := Ledger.perform?_write.mp written
  cases ended
  exact ⟨middle, reached, holds rfl⟩

theorem Tracks.fetch {column : Nat} (tracks : Tracks ledger stock registers)
    (performed : ledger.performAll? [.fetch column] = some middle) :
    Tracks middle stock registers := by
  obtain ⟨next, fetched, ended⟩ := Ledger.performAll?_cons.mp performed
  obtain ⟨-, rfl⟩ := Ledger.perform?_fetch.mp fetched
  cases ended
  exact tracks

theorem look_inv {register : Register}
    (performed : ledger.performAll? [.look register] = some middle) :
    ledger.content register = .full ∧ middle = ledger := by
  obtain ⟨next, looked, ended⟩ := Ledger.performAll?_cons.mp performed
  obtain ⟨full, rfl⟩ := Ledger.perform?_look.mp looked
  cases ended
  exact ⟨full, rfl⟩

theorem putOutcome_matches (outcome : Except Failure Value)
    (tracks : Tracks middle stock registers) (reached : after (middle.put into .full))
    (inside : into < registers.size) (same : registers.size = size) :
    Matches after size (some (stock.putOutcome into outcome))
      (writeOutcome registers into outcome) := by
  cases outcome with
  | error failure => exact Matches.error failure
  | ok value =>
      exact Matches.ok reached (tracks.write inside) (by rw [Registers.size_write, same])

theorem combine_matches {source target : Register} (change : Value → Value → Value)
    (tracks : Tracks ledger stock registers) (inside : target < registers.size)
    (allowed : ledger.Allows [⟨[.take source, .amend target], false⟩] after) :
    Matches after registers.size ((stock.combine? source target change).map .ok)
      (.ok
        ((registers.take source).2.write target
          (change ((registers.take source).2.get target) (registers.take source).1))) := by
  obtain ⟨final, performed, holds⟩ := Ledger.allows_single.mp allowed
  obtain ⟨left, found, follows⟩ := tracks.combine inside performed
  rw [found]
  refine Matches.ok (holds rfl) follows ?_
  rw [Registers.size_write, Registers.take, Registers.size_write]

theorem takeAll_matches {taken : List Register} (build : List Value → Value)
    (tracks : Tracks ledger stock registers) (inside : into < registers.size)
    (allowed : ledger.Allows [⟨taken.map .take ++ [.write into], false⟩] after) :
    Matches after registers.size
      ((stock.takeAll? taken).map fun left => .ok (left.2.put into (some (build left.1))))
      (.ok ((registers.takeAll taken).2.write into (build (registers.takeAll taken).1))) := by
  obtain ⟨middle, performed, reached⟩ := allowed.beforeWrite (taken.map .take)
  obtain ⟨left, found, follows⟩ := tracks.takeAll performed
  rw [found]
  exact putOutcome_matches (.ok _) follows reached (by rw [Registers.size_takeAll]; exact inside)
    Registers.size_takeAll

theorem move_matches {result : Register} (tracks : Tracks ledger stock registers)
    (inside : into < registers.size)
    (allowed : ledger.Allows [⟨[.take result, .write into], false⟩] after) :
    Matches after registers.size ((stock.move? result into).map .ok)
      (.ok (registers.move result into)) := by
  obtain ⟨middle, performed, reached⟩ := allowed.beforeWrite [.take result]
  obtain ⟨next, taken, ended⟩ := Ledger.performAll?_cons.mp performed
  obtain ⟨full, rfl⟩ := Ledger.perform?_take.mp taken
  cases ended
  obtain ⟨left, found, follows⟩ := tracks.take full
  rw [Stock.move?, found]
  have sameSize : (registers.take result).2.size = registers.size := by
    rw [Registers.take, Registers.size_write]
  exact putOutcome_matches (.ok _) follows reached (by rw [sameSize]; exact inside) sameSize

end Agreement

mutual

theorem strictStep_matches (row : Row) {ledger : Ledger} {stock : Stock} {registers : Registers}
    {after : Ledger → Prop} (tracks : Tracks ledger stock registers) :
    ∀ step : Step, (∀ register ∈ step.registers, register < registers.size) →
      ledger.Allows step.paths after →
      Matches after registers.size (strictStep row stock step) (runStep row registers step)
  | .read column conversion into, fits, allowed => by
    rw [Step.paths] at allowed
    obtain ⟨middle, performed, reached⟩ := allowed.beforeWrite [.fetch column.index]
    exact putOutcome_matches _ (tracks.fetch performed) reached (fits into (by simp [Step.registers])) rfl
  | .constant value into, fits, allowed => by
    rw [Step.paths] at allowed
    obtain ⟨middle, performed, reached⟩ := allowed.beforeWrite []
    cases performed
    exact putOutcome_matches (.ok value) tracks reached (fits into (by simp [Step.registers])) rfl
  | .construct type constructor arguments into, fits, allowed => by
    exact takeAll_matches (fun values => (constructor.construct type values).toValue) tracks
      (fits into (by simp [Step.registers])) allowed
  | .produce factory into, fits, allowed => by
    obtain ⟨middle, performed, reached⟩ := allowed.beforeWrite []
    cases performed
    exact putOutcome_matches _ tracks reached (fits into (by simp [Step.registers])) rfl
  | .reuse existing expectation update create into, fits, allowed => by
    rw [Step.paths] at allowed
    have own : into < registers.size := fits into (by simp [Step.registers])
    have later := allowed.split (by simp [intoPaths_ne_nil])
    obtain ⟨middle, performed, holds⟩ := Ledger.allows_single.mp later
    obtain ⟨full, rfl⟩ := look_inv performed
    have paths := holds rfl
    rw [strictStep, runStep, tracks.held full]
    simp only []
    split
    · exact strictInto_matches row tracks update into
        (fun register member => fits register (by simp [Step.registers, member])) own paths.left
    · exact strictInto_matches row tracks create into
        (fun register member => fits register (by simp [Step.registers, member])) own paths.right
  | .project source field into, fits, allowed => by
    obtain ⟨middle, performed, reached⟩ := allowed.beforeWrite [.look source]
    obtain ⟨full, rfl⟩ := look_inv performed
    rw [strictStep, runStep, tracks.held full]
    exact putOutcome_matches (.ok _) tracks reached (fits into (by simp [Step.registers])) rfl
  | .assign target field source, fits, allowed => by
    exact combine_matches (fun value item => value.setField field item) tracks
      (fits target (by simp [Step.registers])) allowed
  | .startSequence type into, fits, allowed => by
    obtain ⟨middle, performed, reached⟩ := allowed.beforeWrite []
    cases performed
    exact putOutcome_matches _ tracks reached (fits into (by simp [Step.registers])) rfl
  | .addItem type target item, fits, allowed => by
    exact combine_matches (addItem type) tracks (fits target (by simp [Step.registers])) allowed
  | .startMap type into, fits, allowed => by
    obtain ⟨middle, performed, reached⟩ := allowed.beforeWrite []
    cases performed
    exact putOutcome_matches _ tracks reached (fits into (by simp [Step.registers])) rfl
  | .addEntry type target key item, fits, allowed => by
    exact combine_matches (fun value => insertItem type value key) tracks
      (fits target (by simp [Step.registers])) allowed
  | .pack form items into, fits, allowed => by
    exact takeAll_matches (.sequence form) tracks (fits into (by simp [Step.registers])) allowed
  | .select branches fallback into, fits, allowed => by
    rw [Step.paths] at allowed
    have own : into < registers.size := fits into (by simp [Step.registers])
    rw [strictStep, runStep]
    rcases strictBranches_matches row tracks branches into
        (fun register member => fits register (by simp [Step.registers, member])) own
        allowed.left with ⟨neither, nor⟩ | ⟨outcome, result, one, other, same⟩
    · rw [neither, nor]
      exact strictInto_matches row tracks fallback into
        (fun register member => fits register (by simp [Step.registers, member])) own
        allowed.right
    · rw [one, other]
      exact same
  | .fail failure, _, _ => Matches.error failure

theorem strictSteps_matches (row : Row) {ledger : Ledger} {stock : Stock} {registers : Registers}
    {after : Ledger → Prop} (tracks : Tracks ledger stock registers) :
    ∀ steps : List Step, (∀ register ∈ stepsRegisters steps, register < registers.size) →
      ledger.Allows (stepsPaths steps) after →
      Matches after registers.size (strictSteps row stock steps) (runSteps row registers steps)
  | [], _, allowed => by
    rw [stepsPaths] at allowed
    obtain ⟨final, performed, holds⟩ := Ledger.allows_single.mp allowed
    cases performed
    exact Matches.ok (holds rfl) tracks rfl
  | step :: rest, fits, allowed => by
    rw [stepsPaths] at allowed
    rw [stepsRegisters, List.forall_mem_append] at fits
    have first := strictStep_matches row tracks step fits.1
      (allowed.split (stepsPaths_ne_nil rest))
    rw [strictSteps, runSteps]
    generalize strictStep row stock step = outcome at first
    generalize runStep row registers step = result at first
    cases first with
    | error failure => exact Matches.error failure
    | ok reached follows kept =>
        have later := strictSteps_matches row follows rest (kept ▸ fits.2) reached
        rw [kept] at later
        exact later

theorem strictInto_matches (row : Row) {ledger : Ledger} {stock : Stock} {registers : Registers}
    {after : Ledger → Prop} (tracks : Tracks ledger stock registers) :
    ∀ (program : ProgramOf Step) (into : Register),
      (∀ register ∈ programRegisters program, register < registers.size) →
      into < registers.size → ledger.Allows (intoPaths program into) after →
      Matches after registers.size (strictInto row stock program into)
        (runInto row registers program into)
  | ⟨steps, result⟩, into, fits, inside, allowed => by
    rw [intoPaths] at allowed
    rw [programRegisters, List.forall_mem_append] at fits
    have first := strictSteps_matches row tracks steps fits.1
      (allowed.split (by simp))
    rw [strictInto, runInto]
    generalize strictSteps row stock steps = outcome at first
    generalize runSteps row registers steps = finished at first
    cases first with
    | error failure => exact Matches.error failure
    | ok reached follows kept =>
        have moved := move_matches follows (kept ▸ inside) reached
        rw [kept] at moved
        exact moved

theorem strictBranches_matches (row : Row) {ledger : Ledger} {stock : Stock}
    {registers : Registers} {after : Ledger → Prop} (tracks : Tracks ledger stock registers) :
    ∀ (branches : List (BranchOf Step)) (into : Register),
      (∀ register ∈ branchRegisters branches, register < registers.size) →
      into < registers.size →
      ledger.Allows (branchPaths branches into) after →
      (strictBranches row stock branches into = none ∧
          runBranches row registers branches into = none) ∨
        ∃ outcome result, strictBranches row stock branches into = some outcome ∧
          runBranches row registers branches into = some result ∧
          Matches after registers.size outcome result
  | [], _, _, _, _ => Or.inl ⟨rfl, rfl⟩
  | ⟨accepts, label, program⟩ :: rest, into, fits, inside, allowed => by
    rw [branchPaths] at allowed
    rw [branchRegisters, List.forall_mem_append] at fits
    rw [strictBranches, runBranches]
    by_cases accepted : accepts row
    · rw [if_pos accepted, if_pos accepted]
      exact Or.inr ⟨_, _, rfl, rfl,
        strictInto_matches row tracks program into fits.1 inside allowed.left⟩
    · rw [if_neg accepted, if_neg accepted]
      exact strictBranches_matches row tracks rest into fits.2 inside allowed.right

end

theorem Tracks.start (count : Nat) (existing : Value) (some : 0 < count) :
    Tracks Ledger.start (Stock.start existing) (Registers.start count existing) := by
  intro register
  by_cases same : register = existingRegister
  · subst same
    rw [if_pos (Ledger.start_full.mpr rfl)]
    simp [Stock.start, Registers.start, Registers.get, existingRegister, some]
  · rw [if_neg (fun full => same (Ledger.start_full.mp full))]
    simp [Stock.start, same]

/-- Where the ledger allows every path of a plan, no run of the plan needs a value that is not
there. -/
theorem Plan.runStrict_eq {plan : Plan} {after : Ledger → Prop}
    (allowed : Ledger.start.Allows plan.paths after)
    (fits : ∀ register ∈ existingRegister :: programRegisters plan.program,
      register < plan.registerCount) (row : Row) (existing : Value) :
    plan.runStrict row existing = some (plan.run row existing) := by
  obtain ⟨⟨steps, result⟩, count⟩ := plan
  rw [List.forall_mem_cons, programRegisters, List.forall_mem_append] at fits
  have sized : (Registers.start count existing).size = count := by
    simp [Registers.start]
  have tracks := Tracks.start count existing fits.1
  have ends := strictSteps_matches row tracks steps (by rw [sized]; exact fits.2.1)
    (allowed.split (by simp))
  simp only [Plan.runStrict, Plan.run]
  generalize strictSteps row (Stock.start existing) steps = outcome at ends
  generalize runSteps row (Registers.start count existing) steps = finished at ends
  cases ends with
  | error failure => rfl
  | ok reached follows kept =>
      obtain ⟨final, performed, -⟩ := Ledger.allows_single.mp reached
      obtain ⟨last, taken, -⟩ := Ledger.performAll?_cons.mp performed
      obtain ⟨full, -⟩ := Ledger.perform?_take.mp taken
      simp only [follows.held full]
      rfl

end Unflatten
