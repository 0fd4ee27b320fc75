import Unflatten.Proofs.Planning.Block

/-!
# Planned programs

A program that is planned from one pass to another is a block that gives its result, which is a
register given out between the passes. Programs within a reuse or a selection are planned from the
same claims and end in one pass that has the claims of all of them.
-/

set_option autoImplicit false

namespace Unflatten

theorem Register.known_existing {existing : Option Register} {register bound : Register}
    (isThere : existing = some register) (known : register < bound) :
    ∀ other, existing = some other → other < bound := by
  intro other same
  cases isThere.symm.trans same
  exact known

/-- `existing` is the register of a value that the program may take. -/
structure Planned (existing : Option Register) (pass : Pass) (program : Program) (next : Pass) :
    Prop where
  block : Block existing.toList [program.result] pass program.steps next
  owned : pass.nextRegister ≤ program.result

namespace Planned

variable {existing : Option Register} {pass next after : Pass} {program : Program}

theorem below (planned : Planned existing pass program next) :
    program.result < next.nextRegister :=
  planned.block.given program.result (by simp)

theorem ofNew (planned : Planned none pass program next)
    (known : ∀ register, existing = some register → register < pass.nextRegister) :
    Planned existing pass program next := by
  refine ⟨planned.block.weaken (by simp) ?_ (by simp), planned.owned⟩
  intro register member
  exact known register (by simpa using member)

theorem widen {earlier : Pass} (planned : Planned existing pass program next)
    (known : ∀ register, existing = some register → register < earlier.nextRegister)
    (sameStart : earlier.claims = pass.claims) (before : earlier.nextRegister ≤ pass.nextRegister)
    (sameEnd : after.claims = next.claims) (behind : next.nextRegister ≤ after.nextRegister) :
    Planned existing earlier program after := by
  refine ⟨planned.block.widen ?_ sameStart before sameEnd behind,
    Nat.le_trans before planned.owned⟩
  intro register member
  exact known register (by simpa using member)

theorem read {column : CellPlace} {conversion : Conversion}
    (unclaimed : pass.claims.isClaimed column.index = false)
    (inside : column.index < pass.claims.length) :
    Planned none pass
      (Program.single (.read column conversion pass.nextRegister) pass.nextRegister)
      ⟨pass.claims.claim column.index, pass.nextRegister + 1⟩ :=
  ⟨Block.read unclaimed inside, Nat.le_refl _⟩

theorem write {step : Step} (paths : step.paths = [⟨[.write pass.nextRegister], false⟩])
    (columns : step.columns = []) (registers : step.registers = [pass.nextRegister]) :
    Planned none pass (Program.single step pass.nextRegister) pass.advanced :=
  ⟨Block.write paths columns registers, Nat.le_refl _⟩

theorem constant (value : Value) :
    Planned none pass (Program.single (.constant value pass.nextRegister) pass.nextRegister)
      pass.advanced :=
  write (by rw [Step.paths]) (by rw [Step.columns]) (by rw [Step.registers])

theorem fail (failure : Failure) :
    Planned none pass (Program.single (.fail failure) pass.nextRegister) pass.advanced where
  owned := Nat.le_refl _
  block :=
    { onward := Pass.Onward.advanced
      columns := by simp [Program.single, stepsColumns_single, Step.columns, Pass.advanced]
      unclaimed := by simp [Program.single, stepsColumns_single, Step.columns]
      registers := by simp [Program.single, stepsRegisters_single, Step.registers]
      known := by simp
      given := by simp [Program.single, Pass.advanced]
      runs := by
        intro ledger _ _
        rw [Program.single, stepsPaths_single, Step.paths, Ledger.allows_single]
        exact ⟨ledger, rfl, fun through => absurd through (by simp)⟩ }

end Planned

/-! ## Programs within a step -/

section Within

variable {uses : List Register} {pass next after : Pass} {program : Program} {into : Register}

theorem Block.moved (block : Block uses [program.result] pass program.steps next)
    (source : program.result ∈ uses ∨ pass.nextRegister ≤ program.result)
    (behind : next.nextRegister ≤ into) (ends : after.nextRegister = into + 1)
    (claims : ∀ column, next.claims.isClaimed column = true →
      after.claims.isClaimed column = true)
    {ledger : Ledger} (ready : Ready pass ledger)
    (full : ∀ register ∈ uses, ledger.content register = .full) :
    ledger.Allows (intoPaths program into) (Served uses [into] pass after ledger) := by
  have older := block.onward.registers
  have result := block.given program.result (by simp)
  obtain ⟨steps, register⟩ := program
  rw [intoPaths]
  refine (block.runs ledger ready full).along fun reached served => ?_
  have takes := Ledger.perform?_take.mpr ⟨served.full register (by simp), rfl⟩
  have blank : (reached.put register .spent).content into = .blank := by
    rw [Ledger.put_other (by lia)]
    exact served.ready.blank into behind
  have writes := Ledger.perform?_write.mpr ⟨blank, rfl⟩
  rw [Ledger.allows_single]
  refine ⟨_, Ledger.performAll?_cons.mpr ⟨_, takes, Ledger.performAll?_cons.mpr
    ⟨_, writes, rfl⟩⟩, fun _ => ⟨⟨fun other free => ?_, fun column fetched => ?_⟩, ?_, ?_⟩⟩
  · rw [Ledger.put_other (by lia), Ledger.put_other (by lia)]
    exact served.ready.blank other (by lia)
  · exact claims column (served.ready.claimed column fetched)
  · intro other member
    rw [List.mem_singleton.mp member]
    exact Ledger.put_same
  · intro other old unused
    have distinct : other ≠ register := by
      rintro rfl
      rcases source with used | low
      · exact unused used
      · exact Nat.not_lt_of_le low old
    rw [Ledger.put_other (by lia), Ledger.put_other distinct]
    exact served.same other old unused

theorem Block.within (block : Block uses [program.result] pass program.steps next)
    (behind : next.nextRegister ≤ into) {register : Register}
    (member : register ∈ programRegisters program) :
    register ∈ uses ∨ (pass.nextRegister ≤ register ∧ register < into + 1) ∨
      register = program.result := by
  obtain ⟨steps, result⟩ := program
  rw [programRegisters, List.mem_append, List.mem_singleton] at member
  rcases member with member | same
  · rcases block.registers register member with used | ⟨low, high⟩
    · exact Or.inl used
    · exact Or.inr (Or.inl ⟨low, by lia⟩)
  · exact Or.inr (Or.inr same)

end Within

section Choices

variable {pass after : Pass} {into : Register}

/-- A program that may stand in a step which writes `into`: the step claims its columns too. -/
def FitsIn (uses : List Register) (pass : Pass) (program : Program) (into : Register) : Prop :=
  (program.result ∈ uses ∨ pass.nextRegister ≤ program.result) ∧
    ∃ next, next.nextRegister ≤ into ∧ Block uses [program.result] pass program.steps next

namespace FitsIn

variable {uses : List Register} {program : Program}

theorem registers (fits : FitsIn uses pass program into) {register : Register}
    (member : register ∈ programRegisters program) :
    register ∈ uses ∨ (pass.nextRegister ≤ register ∧ register < into + 1) := by
  obtain ⟨source, next, behind, block⟩ := fits
  have result := block.given program.result (by simp)
  rcases block.within behind member with used | owned | rfl
  · exact Or.inl used
  · exact Or.inr owned
  · rcases source with used | low
    · exact Or.inl used
    · exact Or.inr ⟨low, by lia⟩

theorem unclaimed (fits : FitsIn uses pass program into) {column : Nat}
    (member : column ∈ programColumns program) : pass.claims.isClaimed column = false := by
  obtain ⟨-, next, -, block⟩ := fits
  rw [programColumns_eq] at member
  exact block.unclaimed column member

theorem moved (fits : FitsIn uses pass program into) (ends : after.nextRegister = into + 1)
    (onward : pass.Onward after)
    (claims : ∀ column ∈ programColumns program, after.claims.isClaimed column = true)
    {ledger : Ledger} (ready : Ready pass ledger)
    (full : ∀ register ∈ uses, ledger.content register = .full) :
    ledger.Allows (intoPaths program into) (Served uses [into] pass after ledger) := by
  obtain ⟨source, next, behind, block⟩ := fits
  refine block.moved source behind ends (fun column claimed => ?_) ready full
  rcases (block.columns column).mp claimed with earlier | member
  · exact onward.claims column earlier
  · rw [← programColumns_eq] at member
    exact claims column member

theorem below (fits : FitsIn uses pass program into) : pass.nextRegister ≤ into := by
  obtain ⟨-, next, behind, block⟩ := fits
  exact Nat.le_trans block.onward.registers behind

end FitsIn

theorem Planned.fitsIn {existing : Option Register} {program : Program} {next : Pass}
    (planned : Planned existing pass program next) (behind : next.nextRegister ≤ into) :
    FitsIn existing.toList pass program into :=
  ⟨Or.inr planned.owned, next, behind, planned.block⟩

theorem Block.reuse {existing : Register} {expectation : Expectation} {update create : Program}
    (known : existing < pass.nextRegister) (updates : FitsIn [existing] pass update into)
    (creates : FitsIn [existing] pass create into) (ends : after.nextRegister = into + 1)
    (length : after.claims.length = pass.claims.length)
    (claims : ∀ column, after.claims.isClaimed column = true ↔
      pass.claims.isClaimed column = true ∨ column ∈ programColumns update ∨
        column ∈ programColumns create) :
    Block [existing] [into] pass [.reuse existing expectation update create into] after := by
  have low := updates.below
  have onward : pass.Onward after :=
    ⟨by lia, length, fun column claimed => (claims column).mpr (Or.inl claimed)⟩
  refine ⟨onward, fun column => ?_, fun column member => ?_, fun register member => ?_, ?_, ?_, ?_⟩
  · rw [claims column, stepsColumns_single, Step.columns, List.mem_append]
  · rw [stepsColumns_single, Step.columns, List.mem_append] at member
    rcases member with member | member
    · exact updates.unclaimed member
    · exact creates.unclaimed member
  · rw [stepsRegisters_single, Step.registers] at member
    rw [ends]
    simp only [List.mem_append, List.mem_cons, List.not_mem_nil, or_false] at member
    rcases member with ((same | member) | member) | rfl
    · exact Or.inl (by simp [same])
    · exact updates.registers member
    · exact creates.registers member
    · exact Or.inr ⟨low, Nat.lt_succ_self _⟩
  · simpa using known
  · simp [ends]
  · intro ledger ready full
    have looks := Ledger.perform?_look.mpr ⟨full existing (by simp), rfl⟩
    rw [stepsPaths_single, Step.paths]
    refine Ledger.Allows.along (Ledger.allows_single.mpr
      ⟨ledger, Ledger.performAll?_cons.mpr ⟨_, looks, rfl⟩, fun _ => rfl⟩) ?_
    rintro between rfl
    refine Ledger.Allows.either ?_ ?_
    · exact updates.moved ends onward
        (fun column member => (claims column).mpr (Or.inr (Or.inl member))) ready full
    · exact creates.moved ends onward
        (fun column member => (claims column).mpr (Or.inr (Or.inr member))) ready full

theorem Block.select {branches : List Branch} {fallback : Program}
    (fits : ∀ branch ∈ branches, FitsIn [] pass branch.program into)
    (falls : FitsIn [] pass fallback into) (ends : after.nextRegister = into + 1)
    (length : after.claims.length = pass.claims.length)
    (claims : ∀ column, after.claims.isClaimed column = true ↔
      pass.claims.isClaimed column = true ∨ column ∈ branchColumns branches ∨
        column ∈ programColumns fallback) :
    Block [] [into] pass [.select branches fallback into] after := by
  have low := falls.below
  have onward : pass.Onward after :=
    ⟨by lia, length, fun column claimed => (claims column).mpr (Or.inl claimed)⟩
  refine ⟨onward, fun column => ?_, fun column member => ?_, fun register member => ?_, ?_, ?_, ?_⟩
  · rw [claims column, stepsColumns_single, Step.columns, List.mem_append]
  · rw [stepsColumns_single, Step.columns, List.mem_append] at member
    rcases member with member | member
    · obtain ⟨branch, isBranch, member⟩ := branchColumns_mem.mp member
      rw [← programColumns_eq] at member
      exact (fits branch isBranch).unclaimed member
    · exact falls.unclaimed member
  · rw [stepsRegisters_single, Step.registers] at member
    rw [ends]
    simp only [List.mem_append, List.mem_cons, List.not_mem_nil, or_false] at member
    rcases member with (member | member) | rfl
    · obtain ⟨branch, isBranch, member⟩ := branchRegisters_mem.mp member
      exact (fits branch isBranch).registers member
    · exact falls.registers member
    · exact Or.inr ⟨low, Nat.lt_succ_self _⟩
  · simp
  · simp [ends]
  · intro ledger ready full
    rw [stepsPaths_single, Step.paths]
    refine Ledger.Allows.either ?_ ?_
    · intro path member
      obtain ⟨branch, isBranch, member⟩ := branchPaths_mem.mp member
      have moved := (fits branch isBranch).moved ends onward (fun column isRead => ?_) ready full
      · exact moved path member
      · rw [programColumns_eq] at isRead
        exact (claims column).mpr (Or.inr (Or.inl (branchColumns_mem.mpr
          ⟨branch, isBranch, isRead⟩)))
    · exact falls.moved ends onward
        (fun column member => (claims column).mpr (Or.inr (Or.inr member))) ready full

end Choices

/-! ## Programs one after the other -/

/-- Programs that are planned in turn. The pass may go on behind the last one without a claim. -/
inductive Items : Pass → List Program → Pass → Prop where
  | nil {pass next : Pass} (claims : next.claims = pass.claims)
      (registers : pass.nextRegister ≤ next.nextRegister) : Items pass [] next
  | cons {pass middle next : Pass} {first : Program} {rest : List Program}
      (planned : Planned none pass first middle) (later : Items middle rest next) :
      Items pass (first :: rest) next

namespace Items

variable {pass next : Pass} {items : List Program}

theorem registers (planned : Items pass items next) :
    pass.nextRegister ≤ next.nextRegister := by
  induction planned with
  | nil claims registers => exact registers
  | cons planned later ih => exact Nat.le_trans planned.block.onward.registers ih

theorem results (planned : Items pass items next) :
    (items.map ProgramOf.result).Nodup ∧
      ∀ register ∈ items.map ProgramOf.result,
        pass.nextRegister ≤ register ∧ register < next.nextRegister := by
  induction planned with
  | nil => simp
  | @cons pass middle next first rest planned later ih =>
      have older := planned.block.onward.registers
      have below := planned.below
      obtain ⟨distinct, owned⟩ := ih
      rw [List.map_cons]
      constructor
      · refine List.nodup_cons.mpr ⟨fun member => ?_, distinct⟩
        exact absurd (owned first.result member).1 (Nat.not_le_of_lt below)
      · intro register member
        rcases List.mem_cons.mp member with rfl | member
        · exact ⟨planned.owned, Nat.lt_of_lt_of_le below later.registers⟩
        · obtain ⟨low, high⟩ := owned register member
          exact ⟨Nat.le_trans older low, high⟩

theorem block (planned : Items pass items next) :
    Block [] (items.map ProgramOf.result) pass (items.flatMap ProgramOf.steps) next := by
  induction planned with
  | nil claims registers =>
      exact (Block.nil (by simp)).widen (by simp) rfl (Nat.le_refl _) claims registers
  | @cons pass middle next first rest planned later ih =>
      rw [List.flatMap_cons, List.map_cons]
      have after : Block [first.result] (first.result :: rest.map ProgramOf.result) middle
          (rest.flatMap ProgramOf.steps) next :=
        ih.frame [first.result] (by simpa using planned.below)
      refine planned.block.append after fun register member => Or.inr ?_
      rw [List.mem_singleton.mp member]
      exact planned.owned

theorem gathered (planned : Items pass items next) {step : Step}
    (paths : step.paths =
      [⟨(items.map ProgramOf.result).map .take ++ [.write next.nextRegister], false⟩])
    (columns : step.columns = [])
    (registers : step.registers = items.map ProgramOf.result ++ [next.nextRegister]) :
    Planned none pass ⟨items.flatMap ProgramOf.steps ++ [step], next.nextRegister⟩
      next.advanced := by
  obtain ⟨distinct, owned⟩ := planned.results
  refine ⟨planned.block.append (Block.gather distinct ?_ paths columns registers) ?_, ?_⟩
  · exact fun register member => (owned register member).2
  · exact fun register member => Or.inr (owned register member).1
  · exact planned.registers

end Items

theorem Planned.added {existing : Option Register} {pass next : Pass} {item : Program}
    {target : Register} (planned : Planned existing pass item next) (step : Step)
    (known : target < pass.nextRegister) (distinct : target ∉ existing.toList)
    (paths : step.paths = [⟨[.take item.result, .amend target], false⟩])
    (columns : step.columns = []) (registers : step.registers = [target, item.result]) :
    Block (target :: existing.toList) [target] pass (item.steps ++ [step]) next := by
  have kept : Block (target :: existing.toList) [target, item.result] pass item.steps next :=
    planned.block.frame [target] fun register member => by
      rw [List.mem_singleton.mp member]
      exact ⟨known, distinct⟩
  have older := planned.block.onward.registers
  have low := planned.owned
  have adds : Block [target, item.result] [target] next [step] next :=
    Block.combine (by lia) ⟨planned.below, Nat.lt_of_lt_of_le known older⟩ paths columns registers
  refine kept.append adds fun register member => ?_
  rcases List.mem_cons.mp member with rfl | member
  · exact Or.inl (by simp)
  · rw [List.mem_singleton.mp member]
    exact Or.inr low

theorem Planned.filled {existing : Option Register} {pass middle next : Pass}
    {start : Program} {steps : List Step} (starts : Planned existing pass start middle)
    (fills : Block [start.result] [start.result] middle steps next) :
    Planned existing pass ⟨start.steps ++ steps, start.result⟩ next := by
  refine ⟨starts.block.append fills fun register member => Or.inr ?_, starts.owned⟩
  rw [List.mem_singleton.mp member]
  exact starts.owned

theorem Block.onTarget {target : Register} {pass between next : Pass} {left right : List Step}
    (first : Block [target] [target] pass left between)
    (second : Block [target] [target] between right next) :
    Block [target] [target] pass (left ++ right) next :=
  first.append second fun _ member => Or.inl member

theorem Block.idle {target : Register} {pass next : Pass} (known : target < pass.nextRegister)
    (claims : next.claims = pass.claims) (registers : pass.nextRegister ≤ next.nextRegister) :
    Block [target] [target] pass [] next :=
  (Block.nil (by simpa using known)).widen (by simpa using known) rfl (Nat.le_refl _) claims
    registers

end Unflatten
