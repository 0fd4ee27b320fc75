import Unflatten.Proofs.Keys.Soundness

/-!
# Stores in use

A store is shared by callers with strategies of their own, and references are bound between calls.
Whatever stands in the store was made for an earlier call. An answer is therefore as good as a fresh
mapper if no earlier call of the same key was for something else: its strategy must be the same, and
its target must not have had references, below object types, that were not bound yet. Keys tell
neither.
-/

set_option autoImplicit false

namespace Unflatten

namespace Store

variable {α : Type} {store : Store α} {key : MapperKey} {build : Unit → Except Failure α}
variable {slot : Slot α} {entry : Nat × α} {value : α}

theorem slot?_mem (found : store.slot? key = some slot) : slot ∈ store.slots ∧ slot.key = key := by
  have same := List.find?_some found
  exact ⟨List.mem_of_find?_eq_some found, of_decide_eq_true same⟩

theorem get?_of_slot {slot : Slot α} (found : store.slot? key = some slot)
    (held : slot.content = some value) : store.get? key = some (slot.ident, value) := by
  rw [get?, found, Option.bind_eq_bind, Option.bind_some, held]
  rfl

theorem get?_eq_some_iff : store.get? key = some entry ↔
    ∃ slot, store.slot? key = some slot ∧ slot.content = some entry.2 ∧ slot.ident = entry.1 := by
  constructor
  · intro held
    unfold get? at held
    cases found : store.slot? key with
    | none =>
        rw [found] at held
        cases held
    | some slot =>
        rw [found, Option.bind_eq_bind, Option.bind_some] at held
        cases content : slot.content with
        | none =>
            rw [content] at held
            cases held
        | some value =>
            rw [content] at held
            cases held
            exact ⟨slot, rfl, content, rfl⟩
  · rintro ⟨slot, found, held, same⟩
    rw [get?_of_slot found held, same]

theorem get?_mem (held : store.get? key = some entry) :
    ∃ slot ∈ store.slots, slot.key = key ∧ slot.content = some entry.2 := by
  obtain ⟨slot, found, filled, -⟩ := get?_eq_some_iff.mp held
  exact ⟨slot, (slot?_mem found).1, (slot?_mem found).2, filled⟩

theorem enter_found (found : store.slot? key = some slot) : store.enter key = (slot, store) := by
  rw [enter, found]

theorem mem_enter (member : slot ∈ (store.enter key).2.slots) (held : slot.content = some value) :
    slot ∈ store.slots := by
  unfold enter at member
  split at member
  · exact member
  · rcases List.mem_append.mp member with earlier | new
    · exact earlier
    · obtain rfl := List.mem_singleton.mp new
      cases held

theorem mem_fill (member : slot ∈ (store.fill key value).slots) :
    slot ∈ store.slots ∨ slot.key = key ∧ slot.content = some value := by
  obtain ⟨before, isSlot, rfl⟩ := List.mem_map.mp member
  by_cases same : before.key = key
  · rw [if_pos same]
    exact Or.inr ⟨same, rfl⟩
  · rw [if_neg same]
    exact Or.inl isSlot

theorem obtain_cases (store : Store α) (key : MapperKey) (build : Unit → Except Failure α) :
    (∃ entry, store.get? key = some entry ∧
        store.obtain key build = { answer := .ok entry, store }) ∨
      (∃ value, build () = .ok value ∧
        store.obtain key build =
          { answer := .ok ((store.enter key).1.ident, value)
            built := some (.ok value)
            store := { (store.enter key).2 with
              builds := (store.enter key).2.builds + 1 }.fill key value }) ∨
      (∃ failure, build () = .error failure ∧
        store.obtain key build =
          { answer := .error failure
            built := some (.error failure)
            store := (store.enter key).2.release key }) := by
  unfold obtain
  dsimp only
  split
  · rename_i value held
    cases found : store.slot? key with
    | some slot =>
        rw [enter_found found] at held ⊢
        exact Or.inl ⟨_, get?_of_slot found held, rfl⟩
    | none =>
        rw [enter, found] at held
        cases held
  · split
    · rename_i value built
      exact Or.inr (Or.inl ⟨value, built, rfl⟩)
    · rename_i failure built
      exact Or.inr (Or.inr ⟨failure, built, rfl⟩)

theorem slot?_fill (found : store.slot? key = some slot) :
    (store.fill key value).slot? key = some { slot with content := some value } := by
  have sameKeys : (fun slot : Slot α => decide (slot.key = key)) ∘
      (fun slot => if slot.key = key then { slot with content := some value } else slot) =
        fun slot => decide (slot.key = key) := by
    funext slot
    rw [Function.comp_apply]
    split
    · rfl
    · rfl
  rw [slot?] at found ⊢
  rw [fill, List.find?_map, sameKeys, found, Option.map_some, if_pos (slot?_mem found).2]

theorem obtain_stored (answered : (store.obtain key build).answer = .ok entry) :
    (store.obtain key build).store.get? key = some entry := by
  rcases obtain_cases store key build with
    ⟨known, held, obtained⟩ | ⟨made, -, obtained⟩ | ⟨failure, -, obtained⟩
  · rw [obtained] at answered ⊢
    cases answered
    exact held
  · rw [obtained] at answered ⊢
    cases answered
    let counted : Store α :=
      { (store.enter key).2 with builds := (store.enter key).2.builds + 1 }
    have entered : counted.slot? key = some (store.enter key).1 := slot?_enter store key
    have filled : (counted.fill key made).slot? key =
        some { (store.enter key).1 with content := some made } := slot?_fill entered
    have held := get?_of_slot filled rfl
    exact held
  · rw [obtained] at answered
    cases answered

theorem mem_obtain (member : slot ∈ (store.obtain key build).store.slots)
    (held : slot.content = some value) :
    slot ∈ store.slots ∨ slot.key = key ∧ build () = .ok value := by
  rcases obtain_cases store key build with
    ⟨known, -, obtained⟩ | ⟨made, built, obtained⟩ | ⟨failure, -, obtained⟩
  · rw [obtained] at member
    exact Or.inl member
  · rw [obtained] at member
    rcases mem_fill member with earlier | ⟨same, filled⟩
    · exact Or.inl (mem_enter earlier held)
    · obtain rfl := Option.some.inj (filled.symm.trans held)
      exact Or.inr ⟨same, built⟩
  · rw [obtained] at member
    exact Or.inl (mem_enter (List.mem_of_mem_filter member) held)

end Store

/-- A request to a store by a caller with a strategy of its own. -/
structure Call where
  strategy : Strategy
  target : Target
  columns : List Column
  settings : Settings

namespace Call

def request (call : Call) (bindings : Bindings) : Request :=
  ⟨bindings, call.target, call.columns, call.settings⟩

def key (call : Call) (bindings : Bindings) : MapperKey :=
  (call.request bindings).key

/-- The mapper that the caller makes without a store. -/
def fresh (call : Call) (bindings : Bindings) : Except Failure Mapper :=
  (call.request bindings).compile call.strategy

def ask (call : Call) (bindings : Bindings) (store : MapperStore) :
    Except Failure (Nat × Mapper) × MapperStore :=
  store.mapperFor call.strategy bindings call.target (Header.ofColumns call.columns) call.settings

theorem ask_eq (call : Call) (bindings : Bindings) (store : MapperStore) :
    call.ask bindings store =
      ((store.obtain (call.key bindings) fun _ => call.fresh bindings).answer,
        (store.obtain (call.key bindings) fun _ => call.fresh bindings).store) :=
  rfl

/-- The answer of a store is as good as a mapper made without it. -/
def Serves (answer : Except Failure (Nat × Mapper)) (fresh : Except Failure Mapper) : Prop :=
  Concurs (fun found mapper => found.2.Interchangeable mapper) answer fresh

end Call

theorem Mapper.Interchangeable.refl (mapper : Mapper) : mapper.Interchangeable mapper :=
  ⟨fun _ => rfl, fun _ _ => rfl⟩

namespace MapperStore

/-- Every slot was filled for a call, under bindings that were in force then. -/
def FilledBy (made : Call → Bindings → Prop) (store : MapperStore) : Prop :=
  ∀ slot ∈ store.slots, ∀ mapper, slot.content = some mapper →
    ∃ call bindings, made call bindings ∧ slot.key = call.key bindings ∧
      call.fresh bindings = .ok mapper

section Filled

variable {made : Call → Bindings → Prop} {store : MapperStore} {call : Call} {bindings : Bindings}

theorem FilledBy.mono {more : Call → Bindings → Prop} (filled : store.FilledBy made)
    (wider : ∀ call bindings, made call bindings → more call bindings) : store.FilledBy more := by
  intro slot member mapper held
  obtain ⟨call, bindings, isMade, same, fresh⟩ := filled slot member mapper held
  exact ⟨call, bindings, wider call bindings isMade, same, fresh⟩

theorem FilledBy.ask (filled : store.FilledBy made) (isMade : made call bindings) :
    (call.ask bindings store).2.FilledBy made := by
  rw [Call.ask_eq]
  intro slot member mapper held
  rcases Store.mem_obtain member held with earlier | ⟨same, fresh⟩
  · exact filled slot earlier mapper held
  · exact ⟨call, bindings, isMade, same, fresh⟩

theorem FilledBy.serves (filled : store.FilledBy made)
    (concurs : ∀ earlier before, made earlier before → earlier.key before = call.key bindings →
      Concurs Mapper.Interchangeable (earlier.fresh before) (call.fresh bindings)) :
    Call.Serves (call.ask bindings store).1 (call.fresh bindings) := by
  rw [Call.ask_eq]
  rcases Store.obtain_cases store (call.key bindings) fun _ => call.fresh bindings with
    ⟨entry, held, obtained⟩ | ⟨mapper, built, obtained⟩ | ⟨failure, built, obtained⟩
  · obtain ⟨slot, member, isKey, content⟩ := Store.get?_mem held
    obtain ⟨earlier, before, isMade, same, made⟩ := filled slot member entry.2 content
    have known := concurs earlier before isMade (same.symm.trans isKey)
    rw [made] at known
    rw [obtained]
    cases found : call.fresh bindings with
    | ok mapper =>
        rw [found] at known
        cases known with
        | ok same => exact Concurs.ok same
    | error failure =>
        rw [found] at known
        cases known
  · rw [obtained, built]
    exact Concurs.ok (Mapper.Interchangeable.refl mapper)
  · rw [obtained, built]
    exact Concurs.error failure failure

end Filled

/-! ## Callers with strategies of their own -/

/-- The store after the calls, in their order. -/
def after (bindings : Bindings) (calls : List Call) : MapperStore :=
  calls.foldl (fun store call => (call.ask bindings store).2) {}

theorem after_filled (bindings : Bindings) (calls : List Call) :
    (after bindings calls).FilledBy fun call before => call ∈ calls ∧ before = bindings := by
  suffices general : ∀ (rest : List Call) (store : MapperStore), (∀ call ∈ rest, call ∈ calls) →
      store.FilledBy (fun call before => call ∈ calls ∧ before = bindings) →
      (rest.foldl (fun store call => (call.ask bindings store).2) store).FilledBy
        fun call before => call ∈ calls ∧ before = bindings from
    general calls {} (fun _ member => member) (by simp [FilledBy])
  intro rest
  induction rest with
  | nil => exact fun store _ filled => filled
  | cons call rest ih =>
      intro store within filled
      exact ih _ (fun other member => within other (by simp [member]))
        (filled.ask ⟨within call (by simp), rfl⟩)

/-- In every history of calls each answer is as good as a fresh mapper, provided that calls of one
key are made with one strategy. -/
theorem call_serves {memory : Memory} {bindings : Bindings} {calls : List Call} {call : Call}
    (clear : ∀ earlier ∈ calls, (earlier.request bindings).Clear memory)
    (isClear : (call.request bindings).Clear memory)
    (uniform : ∀ earlier ∈ calls, earlier.key bindings = call.key bindings →
      earlier.strategy = call.strategy ∧
        call.strategy.Indifferent (earlier.request bindings).site (call.request bindings).site) :
    Call.Serves (call.ask bindings (after bindings calls)).1 (call.fresh bindings) := by
  refine (after_filled bindings calls).serves fun earlier before made same => ?_
  obtain ⟨member, rfl⟩ := made
  obtain ⟨strategies, indifferent⟩ := uniform earlier member same
  have steady : (earlier.request before).Steady (call.request before) :=
    fun _ _ _ _ _ => rfl
  have concurs := Request.compile_concurs (clear earlier member) isClear steady same indifferent
  rw [← strategies] at concurs
  rwa [Call.fresh, Call.fresh, ← strategies]

end MapperStore

/-! ## Three callers -/

namespace Callers

def references : Call :=
  ⟨.standard, Links.byReference.target, Links.byReference.columns, Links.settings⟩

def number : Call :=
  ⟨.leaf, .scalar (.int .int32), Links.byReference.columns, Links.settings⟩

def nodes : Call :=
  ⟨.standard, Links.byType.target, Links.byType.columns, Links.settings⟩

theorem clear {call : Call} (isLinks : call.settings = Links.settings)
    (reached : Links.Reached call.target) :
    (call.request Links.bindings).Clear Links.memory := by
  obtain ⟨strategy, target, columns, settings⟩ := call
  obtain rfl : settings = Links.settings := isLinks
  have held : Request.Held Links.memory ⟨Links.bindings, target, columns, Links.settings⟩ :=
    ⟨fun _ _ => Links.held reached, Links.settings_held⟩
  exact held.clear (Links.all_bound reached)

-- The nodes are given the mapper that was made for the references.
example :
    (nodes.ask Links.bindings (MapperStore.after Links.bindings [references, number])).1.map
      Prod.fst = .ok 0 := by
  decide +kernel

end Callers

theorem Callers.nodes_served :
    Call.Serves
      (Callers.nodes.ask Links.bindings
        (MapperStore.after Links.bindings [Callers.references, Callers.number])).1
      (Callers.nodes.fresh Links.bindings) := by
  refine @MapperStore.call_serves Links.memory _ _ _ ?_
    (Callers.clear rfl Links.Reached.nodes) ?_
  · intro earlier member
    rcases List.mem_pair.mp member with rfl | rfl
    · exact Callers.clear rfl Links.Reached.references
    · exact Callers.clear rfl Links.Reached.number
  · intro earlier member same
    rcases List.mem_pair.mp member with rfl | rfl
    · exact ⟨rfl, by simp [Callers.nodes, Strategy.Indifferent]⟩
    · exact absurd same (by decide +kernel)

/-! ## Two callers with different strategies -/

namespace Callers

def columns : List Column := [Column.declare "Id" (.int .int32)]

def five : Value := .int .int32 (FixedInt.wrapping .int32 5)

def row : Row := ⟨columns, [five]⟩

def whole : Call := ⟨.standard, .any, columns, {}⟩

def cell : Call := ⟨.leaf, .any, columns, {}⟩

theorem cell_answered :
    ((cell.ask [] (MapperStore.after [] [whole])).1.bind fun found => found.2.map row) =
      .ok (.map [("Id", five)]) :=
  rfl

theorem cell_fresh : ((cell.fresh []).bind fun mapper => mapper.map row) = .ok five :=
  rfl

end Callers

/-- The strategy of a caller is no part of the key: the second caller gets the mapper that the first
one has made for the whole row. -/
theorem Callers.cell_not_served :
    ¬ Call.Serves (Callers.cell.ask [] (MapperStore.after [] [Callers.whole])).1
      (Callers.cell.fresh []) := by
  intro serves
  have answered := Callers.cell_answered
  have fresh := Callers.cell_fresh
  revert serves answered fresh
  generalize (Callers.cell.ask [] (MapperStore.after [] [Callers.whole])).1 = answer
  generalize Callers.cell.fresh [] = made
  intro serves answered fresh
  cases serves with
  | error => cases answered
  | @ok found mapper same =>
      have mapped : Except.ok (Value.map [("Id", Callers.five)]) = Except.ok Callers.five :=
        answered.symm.trans ((same.maps Callers.row).trans fresh)
      cases mapped

end Unflatten
