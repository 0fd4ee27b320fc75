import Unflatten.Proofs.Program.Path

/-!
# Ledgers

A ledger follows a control path and says for each register whether it is blank, full or spent. It
refuses a second fetch of a column, a second write of a register, and the use of a register that is
not full. A path that a ledger follows to its end is therefore disciplined.
-/

set_option autoImplicit false

namespace Unflatten

inductive Content where
  | blank
  | full
  | spent
  deriving DecidableEq, Repr

structure Ledger where
  content : Register → Content
  fetched : List Nat

namespace Ledger

/-- Before a run only the register of the existing value is full. -/
def start : Ledger :=
  ⟨fun register => if register = existingRegister then .full else .blank, []⟩

def put (ledger : Ledger) (register : Register) (content : Content) : Ledger :=
  { ledger with
    content := fun other => if other = register then content else ledger.content other }

def perform? (ledger : Ledger) : Action → Option Ledger
  | .fetch column =>
    if column ∈ ledger.fetched then none
    else some { ledger with fetched := column :: ledger.fetched }
  | .write register =>
    if ledger.content register = .blank then some (ledger.put register .full) else none
  | .look register => if ledger.content register = .full then some ledger else none
  | .amend register => if ledger.content register = .full then some ledger else none
  | .take register =>
    if ledger.content register = .full then some (ledger.put register .spent) else none

def performAll? (ledger : Ledger) : List Action → Option Ledger
  | [] => some ledger
  | action :: rest =>
    match ledger.perform? action with
    | some next => next.performAll? rest
    | none => none

section Contents

variable {ledger : Ledger} {register other : Register} {content : Content}

theorem put_same : (ledger.put register content).content register = content := by
  simp [put]

theorem put_other (distinct : other ≠ register) :
    (ledger.put register content).content other = ledger.content other := by
  simp [put, distinct]

theorem start_full : start.content register = .full ↔ register = existingRegister := by
  unfold start
  by_cases same : register = existingRegister
  · simp [same]
  · simp [same]

end Contents

section Performing

variable {ledger next : Ledger} {register : Register}

theorem perform?_fetch {column : Nat} :
    ledger.perform? (.fetch column) = some next ↔
      column ∉ ledger.fetched ∧ next = { ledger with fetched := column :: ledger.fetched } := by
  rw [perform?]
  by_cases fetched : column ∈ ledger.fetched
  · simp [fetched]
  · simp [fetched, eq_comm]

theorem perform?_write :
    ledger.perform? (.write register) = some next ↔
      ledger.content register = .blank ∧ next = ledger.put register .full := by
  rw [perform?]
  by_cases blank : ledger.content register = .blank
  · simp [blank, eq_comm]
  · simp [blank]

theorem perform?_look :
    ledger.perform? (.look register) = some next ↔
      ledger.content register = .full ∧ next = ledger := by
  rw [perform?]
  by_cases full : ledger.content register = .full
  · simp [full, eq_comm]
  · simp [full]

theorem perform?_amend :
    ledger.perform? (.amend register) = some next ↔
      ledger.content register = .full ∧ next = ledger := by
  rw [perform?]
  by_cases full : ledger.content register = .full
  · simp [full, eq_comm]
  · simp [full]

theorem perform?_take :
    ledger.perform? (.take register) = some next ↔
      ledger.content register = .full ∧ next = ledger.put register .spent := by
  rw [perform?]
  by_cases full : ledger.content register = .full
  · simp [full, eq_comm]
  · simp [full]

end Performing

theorem performAll?_cons {ledger final : Ledger} {action : Action} {rest : List Action} :
    ledger.performAll? (action :: rest) = some final ↔
      ∃ next, ledger.perform? action = some next ∧ next.performAll? rest = some final := by
  rw [performAll?]
  cases ledger.perform? action with
  | none => simp
  | some next => simp

theorem performAll?_append {ledger final : Ledger} {first second : List Action} :
    ledger.performAll? (first ++ second) = some final ↔
      ∃ middle, ledger.performAll? first = some middle ∧
        middle.performAll? second = some final := by
  induction first generalizing ledger with
  | nil => simp [performAll?]
  | cons action rest ih =>
      rw [List.cons_append, performAll?_cons]
      constructor
      · rintro ⟨next, performed, later⟩
        obtain ⟨middle, reached, finished⟩ := ih.mp later
        exact ⟨middle, performAll?_cons.mpr ⟨next, performed, reached⟩, finished⟩
      · rintro ⟨middle, reached, finished⟩
        obtain ⟨next, performed, later⟩ := performAll?_cons.mp reached
        exact ⟨next, performed, ih.mpr ⟨middle, later, finished⟩⟩

/-! ## What a ledger admits -/

/-- A path that runs through ends in a ledger with the property `after`; none is refused. -/
def Allows (ledger : Ledger) (paths : List Path) (after : Ledger → Prop) : Prop :=
  ∀ path ∈ paths, ∃ final, ledger.performAll? path.actions = some final ∧
    (path.fails = false → after final)

section Rules

variable {ledger : Ledger} {first second : List Path} {middle after wider : Ledger → Prop}

theorem Allows.mono (allowed : ledger.Allows first after)
    (implied : ∀ final, after final → wider final) : ledger.Allows first wider := by
  intro path member
  obtain ⟨final, performed, holds⟩ := allowed path member
  exact ⟨final, performed, fun through => implied final (holds through)⟩

theorem Allows.along (allowed : ledger.Allows first middle)
    (later : ∀ between, middle between → between.Allows second after) :
    ledger.Allows (Path.along first second) after := by
  intro path member
  obtain ⟨earlier, isFirst, member⟩ := List.mem_flatMap.mp member
  obtain ⟨between, performed, holds⟩ := allowed earlier isFirst
  unfold Path.followedBy at member
  split at member
  · rename_i fails
    rw [List.mem_singleton.mp member]
    exact ⟨between, performed, fun through => absurd (fails.symm.trans through) (by simp)⟩
  · rename_i passes
    obtain ⟨rest, isSecond, rfl⟩ := List.mem_map.mp member
    obtain ⟨final, finished, reached⟩ :=
      later between (holds (by simpa using passes)) rest isSecond
    exact ⟨final, performAll?_append.mpr ⟨between, performed, finished⟩, reached⟩

theorem Allows.either (left : ledger.Allows first after) (right : ledger.Allows second after) :
    ledger.Allows (first ++ second) after := by
  intro path member
  rcases List.mem_append.mp member with isFirst | isSecond
  · exact left path isFirst
  · exact right path isSecond

theorem allows_single {actions : List Action} {fails : Bool} :
    ledger.Allows [⟨actions, fails⟩] after ↔
      ∃ final, ledger.performAll? actions = some final ∧ (fails = false → after final) := by
  simp [Allows]

theorem take_all {registers : List Register} (distinct : registers.Nodup)
    (full : ∀ register ∈ registers, ledger.content register = .full) :
    ∃ final, ledger.performAll? (registers.map .take) = some final ∧
      final.fetched = ledger.fetched ∧
      ∀ other, other ∉ registers → final.content other = ledger.content other := by
  induction registers generalizing ledger with
  | nil => exact ⟨ledger, rfl, rfl, fun _ _ => rfl⟩
  | cons register rest ih =>
      rw [List.nodup_cons] at distinct
      have taken : ledger.perform? (.take register) = some (ledger.put register .spent) :=
        perform?_take.mpr ⟨full register (by simp), rfl⟩
      have fullRest : ∀ other ∈ rest, (ledger.put register .spent).content other = .full := by
        intro other member
        have differs : other ≠ register := by
          rintro rfl
          exact distinct.1 member
        rw [put_other differs]
        exact full other (by simp [member])
      obtain ⟨final, performed, fetched, kept⟩ := ih distinct.2 fullRest
      refine ⟨final, performAll?_cons.mpr ⟨_, taken, performed⟩, fetched, ?_⟩
      intro other missing
      rw [List.mem_cons, not_or] at missing
      rw [kept other missing.2, put_other missing.1]

end Rules

/-! ## What a ledger refuses -/

section Refusals

variable {ledger next final : Ledger} {action : Action} {actions : List Action}
variable {register : Register}

theorem full_of_perform? (performed : ledger.perform? action = some next)
    (full : next.content register = .full) :
    ledger.content register = .full ∨ action = .write register := by
  cases action with
  | fetch column =>
      obtain ⟨-, rfl⟩ := perform?_fetch.mp performed
      exact Or.inl full
  | write written =>
      obtain ⟨-, rfl⟩ := perform?_write.mp performed
      by_cases same : register = written
      · exact Or.inr (by rw [same])
      · rw [put_other same] at full
        exact Or.inl full
  | look looked =>
      obtain ⟨-, rfl⟩ := perform?_look.mp performed
      exact Or.inl full
  | amend amended =>
      obtain ⟨-, rfl⟩ := perform?_amend.mp performed
      exact Or.inl full
  | take taken =>
      obtain ⟨-, rfl⟩ := perform?_take.mp performed
      by_cases same : register = taken
      · rw [same, put_same] at full
        cases full
      · rw [put_other same] at full
        exact Or.inl full

theorem perform?_advances (performed : ledger.perform? action = some next) :
    (ledger.content register = .spent ∨ action = .take register →
        next.content register = .spent) ∧
      (ledger.content register ≠ .blank ∨ action = .write register →
        next.content register ≠ .blank) := by
  cases action with
  | fetch column =>
      obtain ⟨-, rfl⟩ := perform?_fetch.mp performed
      simp
  | write written =>
      obtain ⟨blank, rfl⟩ := perform?_write.mp performed
      by_cases same : register = written
      · subst same
        simp [put_same, blank]
      · simp [put_other same, Ne.symm same]
  | look looked =>
      obtain ⟨-, rfl⟩ := perform?_look.mp performed
      simp
  | amend amended =>
      obtain ⟨-, rfl⟩ := perform?_amend.mp performed
      simp
  | take taken =>
      obtain ⟨-, rfl⟩ := perform?_take.mp performed
      by_cases same : register = taken
      · subst same
        simp [put_same]
      · simp [put_other same, Ne.symm same]

theorem full_of_performAll? (performed : ledger.performAll? actions = some final)
    (full : final.content register = .full) :
    ledger.content register = .full ∨ .write register ∈ actions := by
  induction actions generalizing ledger with
  | nil =>
      cases performed
      exact Or.inl full
  | cons action rest ih =>
      obtain ⟨next, first, later⟩ := performAll?_cons.mp performed
      rcases ih later with full | written
      · rcases full_of_perform? first full with full | rfl
        · exact Or.inl full
        · exact Or.inr (by simp)
      · exact Or.inr (by simp [written])

theorem spent_of_performAll? (performed : ledger.performAll? actions = some final)
    (spent : ledger.content register = .spent ∨ .take register ∈ actions) :
    final.content register = .spent := by
  induction actions generalizing ledger with
  | nil =>
      cases performed
      simpa using spent
  | cons action rest ih =>
      obtain ⟨next, first, later⟩ := performAll?_cons.mp performed
      apply ih later
      rcases spent with spent | taken
      · exact Or.inl ((perform?_advances first).1 (Or.inl spent))
      · rcases List.mem_cons.mp taken with same | taken
        · exact Or.inl ((perform?_advances first).1 (Or.inr same.symm))
        · exact Or.inr taken

theorem filled_of_performAll? (performed : ledger.performAll? actions = some final)
    (filled : ledger.content register ≠ .blank ∨ .write register ∈ actions) :
    final.content register ≠ .blank := by
  induction actions generalizing ledger with
  | nil =>
      cases performed
      simpa using filled
  | cons action rest ih =>
      obtain ⟨next, first, later⟩ := performAll?_cons.mp performed
      apply ih later
      rcases filled with filled | written
      · exact Or.inl ((perform?_advances first).2 (Or.inl filled))
      · rcases List.mem_cons.mp written with same | written
        · exact Or.inl ((perform?_advances first).2 (Or.inr same.symm))
        · exact Or.inr written

theorem full_of_source? (performed : ledger.perform? action = some next)
    (source : action.source? = some register) : ledger.content register = .full := by
  cases action with
  | fetch column => cases source
  | write written => cases source
  | look looked =>
      cases source
      exact (perform?_look.mp performed).1
  | amend amended =>
      cases source
      exact (perform?_amend.mp performed).1
  | take taken =>
      cases source
      exact (perform?_take.mp performed).1

theorem fetched_of_perform? (performed : ledger.perform? action = some next) :
    next.fetched = action.column?.toList ++ ledger.fetched := by
  cases action with
  | fetch column =>
      obtain ⟨-, rfl⟩ := perform?_fetch.mp performed
      rfl
  | write written =>
      obtain ⟨-, rfl⟩ := perform?_write.mp performed
      rfl
  | look looked =>
      obtain ⟨-, rfl⟩ := perform?_look.mp performed
      rfl
  | amend amended =>
      obtain ⟨-, rfl⟩ := perform?_amend.mp performed
      rfl
  | take taken =>
      obtain ⟨-, rfl⟩ := perform?_take.mp performed
      rfl

theorem unfetched_of_column? {column : Nat} (performed : ledger.perform? action = some next)
    (fetches : action.column? = some column) : column ∉ ledger.fetched := by
  cases action with
  | fetch fetched =>
      cases fetches
      exact (perform?_fetch.mp performed).1
  | write written | look looked | amend amended | take taken => cases fetches

theorem columns_nodup {fails : Bool} (performed : ledger.performAll? actions = some final) :
    (Path.columns ⟨actions, fails⟩).Nodup ∧
      ∀ column ∈ Path.columns ⟨actions, fails⟩, column ∉ ledger.fetched := by
  induction actions generalizing ledger with
  | nil => simp [Path.columns]
  | cons action rest ih =>
      obtain ⟨next, first, later⟩ := performAll?_cons.mp performed
      obtain ⟨distinct, fresh⟩ := ih later
      rw [fetched_of_perform? first] at fresh
      have columns : Path.columns ⟨action :: rest, fails⟩ =
          action.column?.toList ++ Path.columns ⟨rest, fails⟩ := by
        cases action <;> rfl
      rw [columns]
      cases fetches : action.column? with
      | none =>
          rw [fetches] at fresh
          exact ⟨distinct, fresh⟩
      | some column =>
          rw [fetches] at fresh
          have missing : column ∉ Path.columns ⟨rest, fails⟩ := by
            intro member
            exact fresh column member (by simp)
          constructor
          · exact List.nodup_cons.mpr ⟨missing, distinct⟩
          · intro other member
            rcases List.mem_cons.mp member with rfl | member
            · exact unfetched_of_column? first fetches
            · intro fetched
              exact fresh other member (by simp [fetched])

end Refusals

end Ledger

/-! ## Discipline -/

/-- Every register that an action needs is the one of the existing value or has been written, and
has not been taken; no register is written again. -/
structure Disciplined (actions : List Action) : Prop where
  written : ∀ before action after register, actions = before ++ action :: after →
    action.source? = some register → register = existingRegister ∨ .write register ∈ before
  present : ∀ before action after register, actions = before ++ action :: after →
    action.source? = some register → .take register ∉ before
  kept : ∀ before register after, actions = before ++ .write register :: after →
    register ≠ existingRegister ∧ .write register ∉ before

theorem Ledger.performed_disciplined {actions : List Action} {final : Ledger}
    (performed : start.performAll? actions = some final) : Disciplined actions := by
  constructor
  · intro before action after register split source
    rw [split] at performed
    obtain ⟨middle, earlier, later⟩ := performAll?_append.mp performed
    obtain ⟨next, first, -⟩ := performAll?_cons.mp later
    rcases full_of_performAll? earlier (full_of_source? first source) with full | written
    · exact Or.inl (start_full.mp full)
    · exact Or.inr written
  · intro before action after register split source taken
    rw [split] at performed
    obtain ⟨middle, earlier, later⟩ := performAll?_append.mp performed
    obtain ⟨next, first, -⟩ := performAll?_cons.mp later
    have spent := spent_of_performAll? earlier (Or.inr taken)
    rw [full_of_source? first source] at spent
    cases spent
  · intro before register after split
    rw [split] at performed
    obtain ⟨middle, earlier, later⟩ := performAll?_append.mp performed
    obtain ⟨next, first, -⟩ := performAll?_cons.mp later
    have blank := (perform?_write.mp first).1
    constructor
    · rintro rfl
      refine filled_of_performAll? earlier (Or.inl ?_) blank
      rw [start_full.mpr rfl]
      simp
    · intro written
      exact filled_of_performAll? earlier (Or.inr written) blank

end Unflatten
