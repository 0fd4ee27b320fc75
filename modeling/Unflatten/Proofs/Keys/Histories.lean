import Mathlib.Data.Finset.Card
import Unflatten.Proofs.Keys.Sessions

/-!
# Histories of a store

The calls on one store stand in one order. Between calls no slot is empty and no key has two, so a
request for a key that holds nothing enters a slot at the end, and either fills it or takes it out
again. One slot stays for each build that succeeds, which makes three counts equal: the keys that
hold something, the builds that were counted and the keys that have been built.
-/

set_option autoImplicit false

namespace Unflatten

/-- A lookup, or a request with what its build would come to. -/
inductive StoreCall (α : Type) where
  | get (key : MapperKey)
  | obtain (key : MapperKey) (build : Unit → Except Failure α)

namespace StoreCall

variable {α : Type}

def key : StoreCall α → MapperKey
  | get key => key
  | obtain key _ => key

def answer (call : StoreCall α) (store : Store α) : Except Failure (Option (Nat × α)) :=
  match call with
  | get key => .ok (store.get? key)
  | obtain key build => (store.obtain key build).answer.map some

def next (call : StoreCall α) (store : Store α) : Store α :=
  match call with
  | get _ => store
  | obtain key build => (store.obtain key build).store

/-- The outcome of the build that the call runs, if it runs one. -/
def invoked? (call : StoreCall α) (store : Store α) : Option (Except Failure α) :=
  match call with
  | get _ => none
  | obtain key build => (store.obtain key build).built

/-- The key for which the call has built. -/
def built? (call : StoreCall α) (store : Store α) : Option MapperKey :=
  match call.invoked? store with
  | some (.ok _) => some call.key
  | _ => none

end StoreCall

namespace Store

variable {α : Type} {store : Store α} {key : MapperKey} {entry : Nat × α}
variable {call : StoreCall α} {failure : Failure} {value : α} {build : Unit → Except Failure α}

def after (store : Store α) (calls : List (StoreCall α)) : Store α :=
  calls.foldl (fun store call => call.next store) store

/-- The keys of the builds that succeed, in the order of the calls. -/
def built (store : Store α) : List (StoreCall α) → List MapperKey
  | [] => []
  | call :: rest => (call.built? store).toList ++ built (call.next store) rest

def keys (store : Store α) : List MapperKey :=
  store.slots.map Slot.key

/-- The state of a store between calls. -/
structure Regular (store : Store α) : Prop where
  distinct : store.keys.Nodup
  filled : ∀ slot ∈ store.slots, slot.content.isSome
  counted : store.builds = store.slots.length

/-! ## Slots -/

theorem slot?_eq_none_iff : store.slot? key = none ↔ key ∉ store.keys := by
  simp only [slot?, keys, List.find?_eq_none, List.mem_map, not_exists, not_and, decide_eq_true_eq]

theorem get?_append {more : List (Slot α)} {issued builds : Nat}
    (held : store.get? key = some entry) :
    get? ⟨store.slots ++ more, issued, builds⟩ key = some entry := by
  obtain ⟨slot, found, filled⟩ := get?_eq_some_iff.mp held
  refine get?_eq_some_iff.mpr ⟨slot, ?_, filled⟩
  rw [slot?] at found ⊢
  rw [List.find?_append, found, Option.some_or]

theorem Regular.size (regular : store.Regular) : store.size = store.slots.length :=
  List.countP_eq_length.mpr regular.filled

theorem Regular.slot?_none (regular : store.Regular) (missing : store.get? key = none) :
    store.slot? key = none := by
  cases found : store.slot? key with
  | none => rfl
  | some slot =>
      obtain ⟨value, held⟩ := Option.isSome_iff_exists.mp (regular.filled slot (slot?_mem found).1)
      rw [get?_of_slot found held] at missing
      cases missing

/-! ## One request -/

theorem obtain_held (held : store.get? key = some entry) :
    store.obtain key build = { answer := .ok entry, store } := by
  obtain ⟨slot, found, filled, same⟩ := get?_eq_some_iff.mp held
  rw [obtain, enter_found found]
  dsimp only
  rw [filled, same]

theorem Regular.obtain_built (regular : store.Regular) (missing : store.get? key = none)
    (built : build () = .ok value) :
    store.obtain key build =
      { answer := .ok (store.issued, value)
        built := some (.ok value)
        store := ⟨store.slots ++ [⟨key, store.issued, some value⟩], store.issued + 1,
          store.builds + 1⟩ } := by
  have unfound := regular.slot?_none missing
  have others : store.slots.map
      (fun slot => if slot.key = key then { slot with content := some value } else slot) =
        store.slots := by
    have untouched : ∀ slot ∈ store.slots,
        (if slot.key = key then { slot with content := some value } else slot) = slot := by
      intro slot member
      rw [if_neg]
      rintro rfl
      exact slot?_eq_none_iff.mp unfound (List.mem_map_of_mem member)
    rw [List.map_congr_left untouched, List.map_id']
  simp only [obtain, enter, unfound, built, fill, List.map_append, others, List.map_cons,
    List.map_nil, if_pos]

theorem Regular.obtain_failed (regular : store.Regular) (missing : store.get? key = none)
    (failed : build () = .error failure) :
    store.obtain key build =
      { answer := .error failure
        built := some (.error failure)
        store := { store with issued := store.issued + 1 } } := by
  have unfound := regular.slot?_none missing
  have others : store.slots.filter (fun slot => decide (slot.key ≠ key)) = store.slots := by
    rw [List.filter_eq_self]
    intro slot member
    rw [decide_eq_true_eq]
    rintro rfl
    exact slot?_eq_none_iff.mp unfound (List.mem_map_of_mem member)
  have own : [(⟨key, store.issued, none⟩ : Slot α)].filter
      (fun slot => decide (slot.key ≠ key)) = [] := by
    simp only [List.filter_cons, ne_eq, not_true_eq_false, decide_false, Bool.false_eq_true,
      if_false, List.filter_nil]
  simp only [obtain, enter, unfound, failed, release, List.filter_append, others, own,
    List.append_nil]

/-! ## One call -/

theorem answer_held (held : store.get? call.key = some entry) :
    call.answer store = .ok (some entry) ∧ call.invoked? store = none ∧
      call.next store = store := by
  cases call with
  | get key =>
      have found : store.get? key = some entry := held
      exact ⟨by rw [StoreCall.answer, found], rfl, rfl⟩
  | obtain key build =>
      have obtained : store.obtain key build = { answer := .ok entry, store } := obtain_held held
      refine ⟨?_, ?_, ?_⟩
      · rw [StoreCall.answer, obtained]
        rfl
      · rw [StoreCall.invoked?, obtained]
      · rw [StoreCall.next, obtained]

theorem invoked_some {outcome : Except Failure α} (invoked : call.invoked? store = some outcome) :
    store.get? call.key = none ∧
      ∃ build, build () = outcome ∧ call = .obtain call.key build := by
  cases call with
  | get key => cases invoked
  | obtain key build =>
      refine ⟨?_, build, ?_, rfl⟩
      · cases held : store.get? key with
        | none => exact held
        | some entry =>
            rw [StoreCall.invoked?, obtain_held held] at invoked
            cases invoked
      · rw [StoreCall.invoked?] at invoked
        rcases obtain_cases store key build with
          ⟨entry, -, obtained⟩ | ⟨made, built, obtained⟩ | ⟨failure, failed, obtained⟩
        · rw [obtained] at invoked
          cases invoked
        · rw [obtained] at invoked
          exact built.trans (Option.some.inj invoked)
        · rw [obtained] at invoked
          exact failed.trans (Option.some.inj invoked)

theorem Regular.invoked_missing (regular : store.Regular) (missing : store.get? key = none) :
    (StoreCall.obtain key build).invoked? store = some (build ()) := by
  rw [StoreCall.invoked?]
  cases outcome : build () with
  | ok value => rw [regular.obtain_built missing outcome]
  | error failure => rw [regular.obtain_failed missing outcome]

theorem Regular.next_built (regular : store.Regular)
    (invoked : call.invoked? store = some (.ok value)) :
    call.next store =
      ⟨store.slots ++ [⟨call.key, store.issued, some value⟩], store.issued + 1,
        store.builds + 1⟩ := by
  obtain ⟨missing, build, built, same⟩ := invoked_some invoked
  rw [same, StoreCall.next, regular.obtain_built missing built]
  rfl

theorem Regular.answer_failed (regular : store.Regular)
    (invoked : call.invoked? store = some (.error failure)) :
    call.answer store = .error failure ∧
      call.next store = { store with issued := store.issued + 1 } := by
  obtain ⟨missing, build, failed, same⟩ := invoked_some invoked
  have obtained := regular.obtain_failed missing failed
  rw [same, StoreCall.answer, StoreCall.next, obtained]
  exact ⟨rfl, rfl⟩

theorem Regular.next_idle (regular : store.Regular) (idle : call.invoked? store = none) :
    call.next store = store := by
  cases call with
  | get key => rfl
  | obtain key build =>
      cases found : store.get? key with
      | some entry =>
          have held : store.get? (StoreCall.obtain key build).key = some entry := found
          exact (answer_held held).2.2
      | none =>
          rw [regular.invoked_missing found] at idle
          cases idle

theorem Regular.keys_next (regular : store.Regular) :
    (call.next store).keys = store.keys ++ (call.built? store).toList := by
  unfold StoreCall.built?
  cases invoked : call.invoked? store with
  | none =>
      rw [regular.next_idle invoked]
      exact (List.append_nil _).symm
  | some outcome =>
      cases outcome with
      | ok value =>
          rw [regular.next_built invoked]
          exact List.map_append
      | error failure =>
          rw [(regular.answer_failed invoked).2]
          exact (List.append_nil _).symm

theorem Regular.get?_next (regular : store.Regular) (held : store.get? key = some entry) :
    (call.next store).get? key = some entry := by
  cases invoked : call.invoked? store with
  | none =>
      rw [regular.next_idle invoked]
      exact held
  | some outcome =>
      cases outcome with
      | ok value =>
          rw [regular.next_built invoked]
          exact get?_append held
      | error failure =>
          rw [(regular.answer_failed invoked).2]
          exact held

theorem Regular.next (regular : store.Regular) : (call.next store).Regular := by
  cases invoked : call.invoked? store with
  | none =>
      rw [regular.next_idle invoked]
      exact regular
  | some outcome =>
      cases outcome with
      | error failure =>
          rw [(regular.answer_failed invoked).2]
          exact ⟨regular.distinct, regular.filled, regular.counted⟩
      | ok value =>
          have missing := slot?_eq_none_iff.mp (regular.slot?_none (invoked_some invoked).1)
          rw [regular.next_built invoked]
          constructor
          · rw [keys, List.map_append, List.nodup_append]
            refine ⟨regular.distinct, List.nodup_singleton _, ?_⟩
            intro other member key isKey
            rw [List.mem_singleton.mp isKey]
            rintro rfl
            exact missing member
          · intro slot member
            rcases List.mem_append.mp member with earlier | new
            · exact regular.filled slot earlier
            · rw [List.mem_singleton.mp new, Option.isSome_some]
          · rw [List.length_append, List.length_singleton, regular.counted]

/-! ## Histories -/

theorem Regular.get?_after {calls : List (StoreCall α)} (regular : store.Regular)
    (held : store.get? key = some entry) : (store.after calls).get? key = some entry := by
  induction calls generalizing store with
  | nil => exact held
  | cons call rest ih => exact ih regular.next (regular.get?_next held)

theorem Regular.after {calls : List (StoreCall α)} (regular : store.Regular) :
    (store.after calls).Regular := by
  induction calls generalizing store with
  | nil => exact regular
  | cons call rest ih => exact ih regular.next

theorem Regular.keys_after (regular : store.Regular) (calls : List (StoreCall α)) :
    (store.after calls).keys = store.keys ++ store.built calls := by
  induction calls generalizing store with
  | nil => exact (List.append_nil _).symm
  | cons call rest ih =>
      calc
        (store.after (call :: rest)).keys =
            (call.next store).keys ++ (call.next store).built rest := ih regular.next
        _ = store.keys ++ store.built (call :: rest) := by
          rw [regular.keys_next, built, List.append_assoc]

theorem Regular.empty : Regular ({} : Store α) :=
  ⟨List.nodup_nil, fun _ member => absurd member List.not_mem_nil, rfl⟩

/-- In every history: what a key holds is the answer to every later call of it, which invokes no
build; the entries, the builds and the keys that have been built are equally many; and a build that
fails leaves the store as it was, so that its key is built again at the next request. -/
theorem history_invariants (calls : List (StoreCall α)) :
    (∀ key entry, (after {} calls).get? key = some entry →
      ∀ (later : List (StoreCall α)) (call : StoreCall α), call.key = key →
        call.answer (after {} (calls ++ later)) = .ok (some entry) ∧
        call.invoked? (after {} (calls ++ later)) = none) ∧
    (after {} calls).builds = (after {} calls).size ∧
    (after {} calls).size = (built {} calls).toFinset.card ∧
    ∀ (call : StoreCall α) (failure : Failure),
      call.invoked? (after {} calls) = some (.error failure) →
        call.answer (after {} calls) = .error failure ∧
        (∀ key, (after {} (calls ++ [call])).get? key = (after {} calls).get? key) ∧
        (after {} (calls ++ [call])).size = (after {} calls).size ∧
        (after {} (calls ++ [call])).builds = (after {} calls).builds ∧
        ∀ build : Unit → Except Failure α,
          (StoreCall.obtain call.key build).invoked? (after {} (calls ++ [call])) =
            some (build ()) ∧
          ∀ value, build () = .ok value → ∃ place,
            (after {} (calls ++ [call, .obtain call.key build])).get? call.key =
              some (place, value) := by
  have regular : (after ({} : Store α) calls).Regular := Regular.empty.after
  have joined (later : List (StoreCall α)) :
      after ({} : Store α) (calls ++ later) = (after {} calls).after later :=
    List.foldl_append
  refine ⟨?_, regular.counted.trans regular.size.symm, ?_, ?_⟩
  · rintro key entry held later call rfl
    rw [joined]
    have still : ((after {} calls).after later).get? call.key = some entry :=
      regular.get?_after held
    obtain ⟨answered, idle, -⟩ := answer_held still
    exact ⟨answered, idle⟩
  · have grown : (after ({} : Store α) calls).keys = built {} calls :=
      Regular.empty.keys_after calls
    rw [← grown, List.toFinset_card_of_nodup regular.distinct, keys, List.length_map, regular.size]
  · intro call failure invoked
    obtain ⟨missing, -⟩ := invoked_some invoked
    obtain ⟨answered, left⟩ := regular.answer_failed invoked
    have next : after ({} : Store α) (calls ++ [call]) = call.next (after {} calls) := joined [call]
    have emptied : (call.next (after {} calls)).get? call.key = none := by
      rw [left]
      exact missing
    have again (build : Unit → Except Failure α) :
        (StoreCall.obtain call.key build).invoked? (call.next (after {} calls)) =
          some (build ()) :=
      regular.next.invoked_missing emptied
    rw [next]
    refine ⟨answered, fun _ => ?_, ?_, ?_, fun build => ⟨again build, fun value built => ?_⟩⟩
    · rw [left]
      rfl
    · rw [left]
      rfl
    · rw [left]
    have obtained := regular.next.obtain_built emptied built
    refine ⟨(call.next (after {} calls)).issued, ?_⟩
    calc
      (after {} (calls ++ [call, .obtain call.key build])).get? call.key
          = ((call.next (after {} calls)).obtain call.key build).store.get? call.key := by
            rw [joined]
            rfl
      _ = some ((call.next (after {} calls)).issued, value) :=
            obtain_stored (by rw [obtained])

end Store

/-! ## A build that is tried again -/

namespace Retries

def key (target : String) : MapperKey := ⟨target, [], Settings.identity {}⟩

def mapper : Mapper := ⟨.any, Plan.ofProgram (Program.keep existingRegister) 1⟩

def failing (target : String) : StoreCall Mapper :=
  .obtain (key target) fun _ => .error (.noPlan target)

/-- The second request of the key succeeds, the third does not build. -/
def calls : List (StoreCall Mapper) :=
  [failing "any", .obtain (key "any") fun _ => .ok mapper, failing "any"]

theorem held : (Store.after {} calls).get? (key "any") = some (1, mapper) :=
  rfl

theorem fails : (failing "map").invoked? (Store.after {} calls) = some (.error (.noPlan "map")) :=
  rfl

end Retries

theorem Retries.history :
    (∀ later : List (StoreCall Mapper),
      (Retries.failing "any").answer (Store.after {} (Retries.calls ++ later)) =
        .ok (some (1, Retries.mapper))) ∧
    (Store.after {} Retries.calls).builds = 1 ∧
    (Retries.failing "map").answer (Store.after {} Retries.calls) = .error (.noPlan "map") ∧
    (Store.after {} (Retries.calls ++ [Retries.failing "map"])).get? (Retries.key "any") =
      some (1, Retries.mapper) := by
  obtain ⟨lasting, counted, -, released⟩ := Store.history_invariants Retries.calls
  obtain ⟨failed, unchanged, -⟩ := released _ _ Retries.fails
  refine ⟨fun later => (lasting _ _ Retries.held later _ rfl).1, counted, failed, ?_⟩
  rw [unchanged]
  exact Retries.held

end Unflatten
