import Unflatten.Mapper
import Unflatten.Target.Token

/-!
# Stores of mappers

A store keeps every mapper that was made, under a key of the target, the columns and the settings.
A key gets a slot before its mapper is made. The slot is filled when that succeeds and taken out
when it fails; a filled slot stays as it is.
-/

set_option autoImplicit false

namespace Unflatten

structure MapperKey where
  target : String
  columns : List (String × String × ScalarType)
  settings : SettingsIdentity
  deriving DecidableEq

def MapperKey.of (bindings : Bindings) (target : Target) (header : Header) (settings : Settings) :
    MapperKey :=
  ⟨target.token bindings, header.signature, settings.identity⟩

/-- What a slot holds is identified by `ident`, which no other slot ever has. -/
structure Slot (α : Type) where
  key : MapperKey
  ident : Nat
  content : Option α := none

/-- `issued` counts the slots that were ever entered, `builds` the builds that succeeded. -/
structure Store (α : Type) where
  slots : List (Slot α) := []
  issued : Nat := 0
  builds : Nat := 0

/-- What a request came to. `built` is the outcome of the build that it ran, if it ran one. -/
structure Obtained (α : Type) where
  answer : Except Failure (Nat × α)
  built : Option (Except Failure α) := none
  store : Store α

namespace Store

variable {α : Type}

def slot? (store : Store α) (key : MapperKey) : Option (Slot α) :=
  store.slots.find? fun slot => decide (slot.key = key)

/-- What stands under a key. An empty slot holds nothing. -/
def get? (store : Store α) (key : MapperKey) : Option (Nat × α) := do
  let slot ← store.slot? key
  let value ← slot.content
  pure (slot.ident, value)

def size (store : Store α) : Nat :=
  store.slots.countP fun slot => slot.content.isSome

def enter (store : Store α) (key : MapperKey) : Slot α × Store α :=
  match store.slot? key with
  | some slot => (slot, store)
  | none =>
    let slot : Slot α := { key, ident := store.issued }
    (slot, { store with slots := store.slots ++ [slot], issued := store.issued + 1 })

/-- Calls stand in one order, so the slot that a call enters is still the one of its key when the
call fills it or takes it out. -/
theorem slot?_enter (store : Store α) (key : MapperKey) :
    (store.enter key).2.slot? key = some (store.enter key).1 := by
  cases found : store.slot? key with
  | some slot => rw [enter, found, found]
  | none =>
      rw [enter, found, slot?]
      dsimp only
      rw [slot?] at found
      rw [List.find?_append, found, Option.none_or, List.find?_singleton, if_pos (decide_eq_true rfl)]

def fill (store : Store α) (key : MapperKey) (value : α) : Store α :=
  { store with
    slots := store.slots.map fun slot =>
      if slot.key = key then { slot with content := some value } else slot }

def release (store : Store α) (key : MapperKey) : Store α :=
  { store with slots := store.slots.filter fun slot => decide (slot.key ≠ key) }

def obtain (store : Store α) (key : MapperKey) (build : Unit → Except Failure α) : Obtained α :=
  let (slot, entered) := store.enter key
  match slot.content with
  | some value => { answer := .ok (slot.ident, value), store := entered }
  | none =>
    match build () with
    | .ok value =>
      { answer := .ok (slot.ident, value)
        built := some (.ok value)
        store := { entered with builds := entered.builds + 1 }.fill key value }
    | .error failure =>
      { answer := .error failure
        built := some (.error failure)
        store := entered.release key }

end Store

abbrev MapperStore := Store Mapper

namespace MapperStore

/-- The mapper for a target and columns, from the store where it is known. -/
def mapperFor (store : MapperStore) (strategy : Strategy) (bindings : Bindings) (target : Target)
    (header : Header) (settings : Settings) : Except Failure (Nat × Mapper) × MapperStore :=
  let obtained := store.obtain (MapperKey.of bindings target header settings) fun _ =>
    Mapper.make strategy bindings target header settings
  (obtained.answer, obtained.store)

end MapperStore

end Unflatten
