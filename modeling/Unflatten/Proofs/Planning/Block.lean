import Unflatten.Proofs.Planning.Outcome
import Unflatten.Proofs.Program.Ledger

/-!
# Blocks

A block is a list of steps planned between two passes. It claims exactly the columns that it reads,
stays within the registers given out between the passes and those it is told to use, and a ledger
allows each of its paths. Blocks follow one another if the first gives what the second uses; what a
block does not use is kept.
-/

set_option autoImplicit false

namespace Unflatten

namespace Claims

theorem isClaimed_claim {claims : Claims} {index : Nat} (inside : index < claims.length)
    (other : Nat) :
    (claims.claim index).isClaimed other = true ↔
      other = index ∨ claims.isClaimed other = true := by
  unfold claim isClaimed
  by_cases same : other = index
  · subst same
    simp [inside]
  · simp [Ne.symm same, same]

theorem length_none (header : Header) : (none header).length = header.length :=
  List.length_replicate

theorem length_claim {claims : Claims} {index : Nat} :
    (claims.claim index).length = claims.length := by
  simp [claim]

theorem isClaimed_merge {left right : Claims} (same : left.length = right.length) (index : Nat) :
    (left.merge right).isClaimed index = true ↔
      left.isClaimed index = true ∨ right.isClaimed index = true := by
  unfold merge isClaimed
  rw [List.getElem?_zipWith]
  by_cases inside : index < left.length
  · simp [List.getElem?_eq_getElem inside, List.getElem?_eq_getElem (same ▸ inside)]
  · rw [List.getElem?_eq_none (by omega), List.getElem?_eq_none (by omega)]
    simp

theorem length_merge {left right : Claims} (same : left.length = right.length) :
    (left.merge right).length = left.length := by
  simp [merge, same]

theorem foldl_merge {outcomes : List Claims} {start : Claims}
    (same : ∀ outcome ∈ outcomes, outcome.length = start.length) :
    (outcomes.foldl merge start).length = start.length ∧
      ∀ index, (outcomes.foldl merge start).isClaimed index = true ↔
        start.isClaimed index = true ∨ ∃ outcome ∈ outcomes, outcome.isClaimed index = true := by
  induction outcomes generalizing start with
  | nil => simp
  | cons first rest ih =>
      have sameFirst := same first (by simp)
      have merged : (start.merge first).length = start.length := length_merge sameFirst.symm
      have sameRest : ∀ outcome ∈ rest, outcome.length = (start.merge first).length := by
        intro outcome member
        rw [merged]
        exact same outcome (by simp [member])
      obtain ⟨lengths, claimed⟩ := ih sameRest
      rw [List.foldl_cons]
      refine ⟨lengths.trans merged, fun index => ?_⟩
      rw [claimed index, isClaimed_merge sameFirst.symm]
      simp [or_assoc]

end Claims

/-! ## Passes that go on -/

/-- The later pass has claimed at least the columns of the earlier one and given out at least its
registers. -/
structure Pass.Onward (pass next : Pass) : Prop where
  registers : pass.nextRegister ≤ next.nextRegister
  length : next.claims.length = pass.claims.length
  claims : ∀ column, pass.claims.isClaimed column = true → next.claims.isClaimed column = true

namespace Pass.Onward

variable {pass between next : Pass}

theorem refl : pass.Onward pass :=
  ⟨Nat.le_refl _, rfl, fun _ claimed => claimed⟩

theorem trans (first : pass.Onward between) (second : between.Onward next) : pass.Onward next :=
  ⟨Nat.le_trans first.registers second.registers, second.length.trans first.length,
    fun column claimed => second.claims column (first.claims column claimed)⟩

theorem advanced : pass.Onward pass.advanced :=
  ⟨Nat.le_succ _, rfl, fun _ claimed => claimed⟩

end Pass.Onward

/-- What the pass has still to give out is untouched. -/
structure Ready (pass : Pass) (ledger : Ledger) : Prop where
  blank : ∀ register, pass.nextRegister ≤ register → ledger.content register = .blank
  claimed : ∀ column ∈ ledger.fetched, pass.claims.isClaimed column = true

namespace Ready

variable {pass next : Pass} {ledger : Ledger}

theorem onward (ready : Ready pass ledger) (later : pass.Onward next) : Ready next ledger :=
  ⟨fun register free => ready.blank register (Nat.le_trans later.registers free),
    fun column fetched => later.claims column (ready.claimed column fetched)⟩

theorem write (ready : Ready pass ledger) :
    Ready pass.advanced (ledger.put pass.nextRegister .full) := by
  refine ⟨fun register free => ?_, ready.claimed⟩
  have free : pass.nextRegister + 1 ≤ register := free
  rw [Ledger.put_other (by lia)]
  exact ready.blank register (by lia)

end Ready

/-- What holds after a block that has used some registers to give others. -/
structure Served (uses gives : List Register) (pass next : Pass) (before after : Ledger) :
    Prop where
  ready : Ready next after
  full : ∀ register ∈ gives, after.content register = .full
  same : ∀ register < pass.nextRegister, register ∉ uses →
    after.content register = before.content register

structure Block (uses gives : List Register) (pass : Pass) (steps : List Step) (next : Pass) :
    Prop where
  onward : pass.Onward next
  columns : ∀ column, next.claims.isClaimed column = true ↔
    pass.claims.isClaimed column = true ∨ column ∈ stepsColumns steps
  unclaimed : ∀ column ∈ stepsColumns steps, pass.claims.isClaimed column = false
  registers : ∀ register ∈ stepsRegisters steps,
    register ∈ uses ∨ (pass.nextRegister ≤ register ∧ register < next.nextRegister)
  known : ∀ register ∈ uses, register < pass.nextRegister
  given : ∀ register ∈ gives, register < next.nextRegister
  runs : ∀ ledger, Ready pass ledger → (∀ register ∈ uses, ledger.content register = .full) →
    ledger.Allows (stepsPaths steps) (Served uses gives pass next ledger)

namespace Block

variable {uses middle gives : List Register} {pass between next : Pass}
variable {steps left right : List Step}

theorem nil (known : ∀ register ∈ uses, register < pass.nextRegister) :
    Block uses uses pass [] pass where
  onward := Pass.Onward.refl
  columns := by simp [stepsColumns]
  unclaimed := by simp [stepsColumns]
  registers := by simp [stepsRegisters]
  known := known
  given := known
  runs := by
    intro ledger ready full
    rw [stepsPaths, Ledger.allows_single]
    exact ⟨ledger, rfl, fun _ => ⟨ready, full, fun _ _ _ => rfl⟩⟩

theorem append (first : Block uses middle pass left between)
    (second : Block middle gives between right next)
    (fresh : ∀ register ∈ middle, register ∈ uses ∨ pass.nextRegister ≤ register) :
    Block uses gives pass (left ++ right) next where
  onward := first.onward.trans second.onward
  columns := by
    intro column
    rw [second.columns, first.columns, stepsColumns_append, List.mem_append, or_assoc]
  unclaimed := by
    intro column member
    rw [stepsColumns_append, List.mem_append] at member
    rcases member with member | member
    · exact first.unclaimed column member
    · have free := second.unclaimed column member
      cases claimed : pass.claims.isClaimed column with
      | false => rfl
      | true =>
          rw [first.onward.claims column claimed] at free
          cases free
  registers := by
    intro register member
    have one := first.onward.registers
    have two := second.onward.registers
    rw [stepsRegisters_append, List.mem_append] at member
    rcases member with member | member
    · rcases first.registers register member with used | ⟨low, high⟩
      · exact Or.inl used
      · exact Or.inr ⟨low, Nat.lt_of_lt_of_le high two⟩
    · rcases second.registers register member with used | ⟨low, high⟩
      · rcases fresh register used with known | low
        · exact Or.inl known
        · exact Or.inr ⟨low, Nat.lt_of_lt_of_le (first.given register used) two⟩
      · exact Or.inr ⟨Nat.le_trans one low, high⟩
  known := first.known
  given := second.given
  runs := by
    intro ledger ready full
    rw [stepsPaths_append]
    refine (first.runs ledger ready full).along fun reached served => ?_
    refine (second.runs reached served.ready served.full).mono fun final later => ?_
    refine ⟨later.ready, later.full, fun register old unused => ?_⟩
    have older : register < between.nextRegister := Nat.lt_of_lt_of_le old first.onward.registers
    have missing : register ∉ middle := by
      intro member
      rcases fresh register member with known | low
      · exact unused known
      · exact absurd old (Nat.not_lt_of_le low)
    rw [later.same register older missing, served.same register old unused]

theorem frame (kept : List Register) (block : Block uses gives pass steps next)
    (known : ∀ register ∈ kept, register < pass.nextRegister ∧ register ∉ uses) :
    Block (kept ++ uses) (kept ++ gives) pass steps next where
  onward := block.onward
  columns := block.columns
  unclaimed := block.unclaimed
  registers := by
    intro register member
    rcases block.registers register member with used | owned
    · exact Or.inl (List.mem_append_right kept used)
    · exact Or.inr owned
  known := by
    intro register member
    rcases List.mem_append.mp member with member | member
    · exact (known register member).1
    · exact block.known register member
  given := by
    intro register member
    rcases List.mem_append.mp member with member | member
    · exact Nat.lt_of_lt_of_le (known register member).1 block.onward.registers
    · exact block.given register member
  runs := by
    intro ledger ready full
    have needed : ∀ register ∈ uses, ledger.content register = .full :=
      fun register member => full register (List.mem_append_right kept member)
    refine (block.runs ledger ready needed).mono fun final served => ?_
    refine ⟨served.ready, fun register member => ?_, fun register old unused => ?_⟩
    · rcases List.mem_append.mp member with member | member
      · rw [served.same register (known register member).1 (known register member).2]
        exact full register (List.mem_append_left uses member)
      · exact served.full register member
    · rw [List.mem_append, not_or] at unused
      exact served.same register old unused.2

theorem weaken {more fewer : List Register} (block : Block uses gives pass steps next)
    (used : ∀ register ∈ uses, register ∈ more)
    (known : ∀ register ∈ more, register < pass.nextRegister)
    (given : ∀ register ∈ fewer, register ∈ gives) : Block more fewer pass steps next where
  onward := block.onward
  columns := block.columns
  unclaimed := block.unclaimed
  registers := by
    intro register member
    rcases block.registers register member with isUsed | owned
    · exact Or.inl (used register isUsed)
    · exact Or.inr owned
  known := known
  given := fun register member => block.given register (given register member)
  runs := by
    intro ledger ready full
    refine (block.runs ledger ready fun register isUsed =>
      full register (used register isUsed)).mono fun final served => ?_
    exact ⟨served.ready, fun register member => served.full register (given register member),
      fun register old unused => served.same register old fun isUsed =>
        unused (used register isUsed)⟩

theorem widen {earlier later : Pass} (block : Block uses gives pass steps next)
    (known : ∀ register ∈ uses, register < earlier.nextRegister)
    (sameStart : earlier.claims = pass.claims) (before : earlier.nextRegister ≤ pass.nextRegister)
    (sameEnd : later.claims = next.claims) (behind : next.nextRegister ≤ later.nextRegister) :
    Block uses gives earlier steps later where
  onward := by
    refine ⟨Nat.le_trans before (Nat.le_trans block.onward.registers behind), ?_, ?_⟩
    · rw [sameStart, sameEnd]
      exact block.onward.length
    · rw [sameStart, sameEnd]
      exact block.onward.claims
  columns := by
    rw [sameStart, sameEnd]
    exact block.columns
  unclaimed := by
    rw [sameStart]
    exact block.unclaimed
  registers := by
    intro register member
    rcases block.registers register member with used | ⟨low, high⟩
    · exact Or.inl used
    · exact Or.inr ⟨Nat.le_trans before low, Nat.lt_of_lt_of_le high behind⟩
  known := known
  given := fun register member => Nat.lt_of_lt_of_le (block.given register member) behind
  runs := by
    intro ledger ready full
    have sooner : earlier.Onward pass :=
      ⟨before, by rw [sameStart], fun column claimed => by rw [← sameStart]; exact claimed⟩
    have after : next.Onward later :=
      ⟨behind, by rw [sameEnd], fun column claimed => by rw [sameEnd]; exact claimed⟩
    refine (block.runs ledger (ready.onward sooner) full).mono fun final served => ?_
    exact ⟨served.ready.onward after, served.full, fun register old unused =>
      served.same register (Nat.lt_of_lt_of_le old before) unused⟩

end Block

/-! ## Single steps -/

namespace Block

variable {pass : Pass} {step : Step}

theorem read {column : CellPlace} {conversion : Conversion}
    (unclaimed : pass.claims.isClaimed column.index = false)
    (inside : column.index < pass.claims.length) :
    Block [] [pass.nextRegister] pass [.read column conversion pass.nextRegister]
      ⟨pass.claims.claim column.index, pass.nextRegister + 1⟩ where
  onward := by
    refine ⟨Nat.le_succ _, Claims.length_claim, fun other claimed => ?_⟩
    exact (Claims.isClaimed_claim inside other).mpr (Or.inr claimed)
  columns := by
    intro other
    rw [Claims.isClaimed_claim inside, stepsColumns_single, Step.columns, List.mem_singleton,
      or_comm]
  unclaimed := by
    intro other member
    rw [stepsColumns_single, Step.columns, List.mem_singleton] at member
    rw [member]
    exact unclaimed
  registers := by
    intro register member
    rw [stepsRegisters_single, Step.registers, List.mem_singleton] at member
    rw [member]
    exact Or.inr ⟨Nat.le_refl _, Nat.lt_succ_self _⟩
  known := by simp
  given := by simp
  runs := by
    intro ledger ready _
    have unfetched : column.index ∉ ledger.fetched := by
      intro fetched
      rw [ready.claimed _ fetched] at unclaimed
      cases unclaimed
    have fetches := Ledger.perform?_fetch.mpr ⟨unfetched, rfl⟩
    rw [stepsPaths_single, Step.paths, Ledger.allows_single]
    refine ⟨_, Ledger.performAll?_cons.mpr ⟨_, fetches, Ledger.performAll?_cons.mpr
      ⟨_, Ledger.perform?_write.mpr ⟨ready.blank pass.nextRegister (Nat.le_refl _), rfl⟩, rfl⟩⟩,
      fun _ => ⟨⟨?_, ?_⟩, ?_, ?_⟩⟩
    · exact ready.write.blank
    · intro other member
      rw [Claims.isClaimed_claim inside]
      rcases List.mem_cons.mp member with same | fetched
      · exact Or.inl same
      · exact Or.inr (ready.claimed other fetched)
    · intro register member
      rw [List.mem_singleton.mp member]
      exact Ledger.put_same
    · intro register old _
      exact Ledger.put_other (Nat.ne_of_lt old)

theorem gather {taken : List Register} (distinct : taken.Nodup)
    (known : ∀ register ∈ taken, register < pass.nextRegister)
    (paths : step.paths = [⟨taken.map .take ++ [.write pass.nextRegister], false⟩])
    (columns : step.columns = []) (registers : step.registers = taken ++ [pass.nextRegister]) :
    Block taken [pass.nextRegister] pass [step] pass.advanced where
  onward := Pass.Onward.advanced
  columns := by
    intro column
    rw [stepsColumns_single, columns]
    simp [Pass.advanced]
  unclaimed := by simp [stepsColumns_single, columns]
  registers := by
    intro register member
    rw [stepsRegisters_single, registers, List.mem_append, List.mem_singleton] at member
    rcases member with member | rfl
    · exact Or.inl member
    · exact Or.inr ⟨Nat.le_refl _, Nat.lt_succ_self _⟩
  known := known
  given := by simp [Pass.advanced]
  runs := by
    intro ledger ready full
    obtain ⟨emptied, performed, fetched, kept⟩ := Ledger.take_all distinct full
    have untaken {register : Register} (free : pass.nextRegister ≤ register) :
        register ∉ taken := by
      intro member
      exact Nat.not_lt_of_le free (known register member)
    have still : Ready pass emptied := by
      refine ⟨fun register free => ?_, fun column member => ?_⟩
      · rw [kept register (untaken free)]
        exact ready.blank register free
      · rw [fetched] at member
        exact ready.claimed column member
    have writes := Ledger.perform?_write.mpr
      ⟨still.blank pass.nextRegister (Nat.le_refl _), rfl⟩
    rw [stepsPaths_single, paths, Ledger.allows_single]
    refine ⟨_, Ledger.performAll?_append.mpr ⟨emptied, performed, Ledger.performAll?_cons.mpr
      ⟨_, writes, rfl⟩⟩, fun _ => ⟨still.write, ?_, ?_⟩⟩
    · intro register member
      rw [List.mem_singleton.mp member]
      exact Ledger.put_same
    · intro register old unused
      rw [Ledger.put_other (Nat.ne_of_lt old), kept register unused]

theorem write (paths : step.paths = [⟨[.write pass.nextRegister], false⟩])
    (columns : step.columns = []) (registers : step.registers = [pass.nextRegister]) :
    Block [] [pass.nextRegister] pass [step] pass.advanced :=
  gather List.nodup_nil (by simp) paths columns registers

theorem combine {item target : Register} (distinct : item ≠ target)
    (known : item < pass.nextRegister ∧ target < pass.nextRegister)
    (paths : step.paths = [⟨[.take item, .amend target], false⟩])
    (columns : step.columns = []) (registers : step.registers = [target, item]) :
    Block [target, item] [target] pass [step] pass where
  onward := Pass.Onward.refl
  columns := by simp [stepsColumns_single, columns]
  unclaimed := by simp [stepsColumns_single, columns]
  registers := by
    intro register member
    rw [stepsRegisters_single, registers] at member
    exact Or.inl member
  known := by simp [known]
  given := by simp [known]
  runs := by
    intro ledger ready full
    have targetFull : (ledger.put item .spent).content target = .full := by
      rw [Ledger.put_other (Ne.symm distinct)]
      exact full target (by simp)
    have takes := Ledger.perform?_take.mpr ⟨full item (by simp), rfl⟩
    have amends := Ledger.perform?_amend.mpr ⟨targetFull, rfl⟩
    rw [stepsPaths_single, paths, Ledger.allows_single]
    refine ⟨_, Ledger.performAll?_cons.mpr ⟨_, takes, Ledger.performAll?_cons.mpr
      ⟨_, amends, rfl⟩⟩, fun _ => ⟨⟨fun register free => ?_, ready.claimed⟩, ?_, ?_⟩⟩
    · rw [Ledger.put_other (by lia)]
      exact ready.blank register free
    · intro register member
      rw [List.mem_singleton.mp member]
      exact targetFull
    · intro register _ unused
      refine Ledger.put_other fun same => unused ?_
      simp [same]

theorem project {source : Register} (field : String) (known : source < pass.nextRegister) :
    Block [source] [source, pass.nextRegister] pass [.project source field pass.nextRegister]
      pass.advanced where
  onward := Pass.Onward.advanced
  columns := by
    intro column
    rw [stepsColumns_single, Step.columns]
    simp [Pass.advanced]
  unclaimed := by simp [stepsColumns_single, Step.columns]
  registers := by
    intro register member
    rw [stepsRegisters_single, Step.registers] at member
    rcases List.mem_cons.mp member with rfl | member
    · exact Or.inl (by simp)
    · rw [List.mem_singleton.mp member]
      exact Or.inr ⟨Nat.le_refl _, Nat.lt_succ_self _⟩
  known := by simp [known]
  given := by
    intro register member
    rcases List.mem_cons.mp member with rfl | member
    · exact Nat.lt_succ_of_lt known
    · rw [List.mem_singleton.mp member]
      exact Nat.lt_succ_self _
  runs := by
    intro ledger ready full
    have looks := Ledger.perform?_look.mpr ⟨full source (by simp), rfl⟩
    have writes := Ledger.perform?_write.mpr
      ⟨ready.blank pass.nextRegister (Nat.le_refl _), rfl⟩
    rw [stepsPaths_single, Step.paths, Ledger.allows_single]
    refine ⟨_, Ledger.performAll?_cons.mpr ⟨_, looks, Ledger.performAll?_cons.mpr
      ⟨_, writes, rfl⟩⟩, fun _ => ⟨ready.write, ?_, ?_⟩⟩
    · intro register member
      rcases List.mem_cons.mp member with rfl | member
      · rw [Ledger.put_other (Nat.ne_of_lt known)]
        exact full register (by simp)
      · rw [List.mem_singleton.mp member]
        exact Ledger.put_same
    · intro register old _
      exact Ledger.put_other (Nat.ne_of_lt old)

end Block

end Unflatten
