import Unflatten.Proofs.Keys.LateBinding
import Unflatten.Proofs.Program.Renaming

/-!
# Requests of rows

Rows are asked for one after the other. The mapper is made at the first row, if there is one, and
kept; a failure to make it is the only answer, a row that fails is an answer among others, and what
has ended stays ended. For a result set in memory this gives each row once, in order.
-/

set_option autoImplicit false

namespace Unflatten

namespace RowMapping

section Requests

variable {σ : Type} [RowSource σ] {mapping : RowMapping} {source : σ}

/-- The mapping and the source behind a number of requests. -/
def after (mapping : RowMapping) (source : σ) : Nat → RowMapping × σ
  | 0 => (mapping, source)
  | requests + 1 => after (mapping.next source).2.1 (mapping.next source).2.2 requests

/-- The answer to a request behind a number of others. -/
def answer (mapping : RowMapping) (source : σ) (earlier : Nat) : Option (Except Failure Value) :=
  ((mapping.after source earlier).1.next (mapping.after source earlier).2).1

/-! ## The end -/

theorem next_of_done (isDone : mapping.isDone = true) :
    mapping.next source = (none, mapping, source) :=
  if_pos isDone

theorem isDone_of_next_none (ended : (mapping.next source).1 = none) :
    (mapping.next source).2.1.isDone = true := by
  unfold next at ended ⊢
  split
  · assumption
  · rename_i open_
    rw [if_neg open_] at ended
    split at ended
    · cases ended
    · rfl
    · cases ended

theorem after_of_done (isDone : mapping.isDone = true) (requests : Nat) :
    mapping.after source requests = (mapping, source) := by
  induction requests with
  | zero => rfl
  | succ requests ih => rw [after, next_of_done isDone, ih]

theorem answer_of_done (isDone : mapping.isDone = true) (earlier : Nat) :
    mapping.answer source earlier = none := by
  rw [answer, after_of_done isDone, next_of_done isDone]

theorem answer_succ (earlier : Nat) :
    mapping.answer source (earlier + 1) =
      (mapping.next source).2.1.answer (mapping.next source).2.2 earlier :=
  rfl

theorem answer_ended {earlier later : Nat} (ended : mapping.answer source earlier = none)
    (behind : earlier ≤ later) : mapping.answer source later = none := by
  induction earlier generalizing mapping source later with
  | zero =>
      cases later with
      | zero => exact ended
      | succ later => exact answer_of_done (isDone_of_next_none ended) later
  | succ earlier ih =>
      cases later with
      | zero => cases behind
      | succ later =>
          rw [answer_succ] at ended ⊢
          exact ih ended (Nat.le_of_succ_le_succ behind)

end Requests

end RowMapping

/-! ## Result sets in memory -/

/-- What the rows of a set come to: the outcome of each row, or, in place of them all, the failure to
make a mapper. -/
def ResultSet.outcomes (set : ResultSet) (made : Except Failure Mapper) :
    List (Except Failure Value) :=
  match made with
  | .ok mapper => set.rows.map fun cells => mapper.map ⟨set.columns, cells⟩
  | .error failure => if set.rows.isEmpty then [] else [.error failure]

namespace ResultSet

variable {set : ResultSet}

theorem outcomes_empty (empty : set.rows = []) (made : Except Failure Mapper) :
    set.outcomes made = [] := by
  cases made with
  | ok mapper => rw [outcomes, empty, List.map_nil]
  | error failure => rw [outcomes, empty, List.isEmpty_nil, if_pos rfl]

theorem outcomes_failed {cells : List Value} {rest : List (List Value)}
    (filled : set.rows = cells :: rest) (failure : Failure) :
    set.outcomes (.error failure) = [.error failure] := by
  rw [outcomes, filled, List.isEmpty_cons, if_neg Bool.false_ne_true]

theorem outcomes_mirrors {one other : Except Failure Mapper}
    (alike : Mirrors Mapper.Interchangeable one other) : set.outcomes one = set.outcomes other := by
  cases alike with
  | error failure => rfl
  | ok same => exact List.map_congr_left fun cells _ => same.maps ⟨set.columns, cells⟩

end ResultSet

namespace MemorySource

variable {source : MemorySource} {cells : List Value}

/-- The current set, which has no columns and no rows if there is none. -/
def current (source : MemorySource) : ResultSet :=
  ⟨source.columns, source.rows⟩

theorem advance_row (here : source.rows[source.position]? = some cells) :
    RowSource.advance source = (.ok true, { source with position := source.position + 1 }) := by
  have inside := (List.getElem?_eq_some_iff.mp here).1
  simp only [RowSource.advance, advance, if_pos inside]

theorem row_advanced (here : source.rows[source.position]? = some cells) :
    RowSource.row { source with position := source.position + 1 } = ⟨source.columns, cells⟩ := by
  have rows : { source with position := source.position + 1 }.rows = source.rows := rfl
  simp only [RowSource.row, MemorySource.cells, rows, here]
  rfl

theorem advance_behind (behind : source.rows[source.position]? = none) :
    RowSource.advance source = (.ok false, { source with position := source.rows.length + 1 }) := by
  have outside := Nat.not_lt.mpr (List.getElem?_eq_none_iff.mp behind)
  simp only [RowSource.advance, advance, if_neg outside]

end MemorySource

namespace RowMapping

variable {make : Header → Except Failure Mapper} {mapper : Mapper} {mapping : RowMapping}
variable {source : MemorySource}

theorem next_row {cells : List Value} (isOpen : mapping.isDone = false)
    (here : source.rows[source.position]? = some cells) :
    mapping.next source =
      (some (mapping.mapRow ⟨source.columns, cells⟩).1, (mapping.mapRow ⟨source.columns, cells⟩).2,
        { source with position := source.position + 1 }) := by
  rw [next, isOpen, if_neg Bool.false_ne_true, MemorySource.advance_row here]
  dsimp only
  rw [MemorySource.row_advanced here]

theorem next_behind (isOpen : mapping.isDone = false)
    (behind : source.rows[source.position]? = none) :
    mapping.next source =
      (none, { mapping with isDone := true },
        { source with position := source.rows.length + 1 }) := by
  rw [next, isOpen, if_neg Bool.false_ne_true, MemorySource.advance_behind behind]

theorem answer_mapper (earlier : Nat) :
    answer ⟨make, some mapper, false⟩ source earlier =
      source.rows[source.position + earlier]?.map fun cells =>
        mapper.map ⟨source.columns, cells⟩ := by
  induction earlier generalizing source with
  | zero =>
      rw [answer, after, Nat.add_zero]
      cases here : source.rows[source.position]? with
      | some cells =>
          rw [next_row rfl here]
          rfl
      | none =>
          rw [next_behind rfl here]
          rfl
  | succ earlier ih =>
      rw [answer_succ]
      cases here : source.rows[source.position]? with
      | some cells =>
          rw [next_row rfl here, Nat.add_comm earlier, ← Nat.add_assoc]
          exact ih
      | none =>
          have behind : source.rows[source.position + (earlier + 1)]? = none :=
            List.getElem?_eq_none_iff.mpr
              (Nat.le_trans (List.getElem?_eq_none_iff.mp here) (Nat.le_add_right _ _))
          rw [next_behind rfl here, behind]
          exact answer_of_done rfl earlier

theorem answer_first (make : Header → Except Failure Mapper) (sets : List ResultSet)
    (earlier : Nat) :
    answer ⟨make, none, false⟩ (⟨sets, 0⟩ : MemorySource) earlier =
      ((MemorySource.current ⟨sets, 0⟩).outcomes
        (make (Header.ofColumns (MemorySource.columns ⟨sets, 0⟩))))[earlier]? := by
  generalize isSource : (⟨sets, 0⟩ : MemorySource) = source
  have start : source.position = 0 := isSource ▸ rfl
  cases rows : source.rows with
  | nil =>
      have behind : source.rows[source.position]? = none := by rw [rows, List.getElem?_nil]
      have ended : answer ⟨make, none, false⟩ source 0 = none := by
        rw [answer, after, next_behind rfl behind]
      rw [ResultSet.outcomes_empty rows, List.getElem?_nil]
      exact answer_ended ended (Nat.zero_le earlier)
  | cons cells rest =>
      have here : source.rows[source.position]? = some cells := by
        rw [start, rows, List.getElem?_cons_zero]
      cases made : make (Header.ofColumns source.columns) with
      | ok mapper =>
          have mapped : mapRow ⟨make, none, false⟩ ⟨source.columns, cells⟩ =
              (mapper.map ⟨source.columns, cells⟩, ⟨make, some mapper, false⟩) := by
            simp only [mapRow, made]
          rw [ResultSet.outcomes, List.getElem?_map, MemorySource.current]
          cases earlier with
          | zero =>
              rw [answer, after, next_row rfl here, mapped, rows]
              rfl
          | succ earlier =>
              rw [answer_succ, next_row rfl here, mapped, answer_mapper, start, Nat.zero_add,
                Nat.add_comm earlier]
              rfl
      | error failure =>
          have mapped : mapRow ⟨make, none, false⟩ ⟨source.columns, cells⟩ =
              (.error failure, ⟨make, none, true⟩) := by
            simp only [mapRow, made]
          rw [ResultSet.outcomes_failed rows]
          cases earlier with
          | zero =>
              rw [answer, after, next_row rfl here, mapped]
              rfl
          | succ earlier =>
              rw [answer_succ, next_row rfl here, mapped]
              exact answer_of_done rfl earlier

theorem answer_empty {set : ResultSet} (empty : set.rows = []) (make : Header → Except Failure Mapper)
    (others : List ResultSet) (request : Nat) :
    answer ⟨make, none, false⟩ (⟨set :: others, 0⟩ : MemorySource) request = none ∧
      (after ⟨make, none, false⟩ (⟨set :: others, 0⟩ : MemorySource) request).1.mapper = none := by
  have behind : (⟨set :: others, 0⟩ : MemorySource).rows[0]? = none := by
    rw [MemorySource.rows, List.head?_cons, Option.map_some, Option.getD_some, empty,
      List.getElem?_nil]
  have ended : answer ⟨make, none, false⟩ (⟨set :: others, 0⟩ : MemorySource) 0 = none := by
    rw [answer, after, next_behind rfl behind]
  refine ⟨answer_ended ended (Nat.zero_le request), ?_⟩
  cases request with
  | zero => rfl
  | succ request => rw [after, next_behind rfl behind, after_of_done rfl]

/-- The rows of a source for a target, with the mapper that a store gives for their columns. -/
def fromStore (store : MapperStore) (strategy : Strategy) (bindings : Bindings) (target : Target)
    (settings : Settings) : RowMapping :=
  ⟨fun header => (store.mapperFor strategy bindings target header settings).1.map Prod.snd, none,
    false⟩

end RowMapping

theorem MapperStore.mapperFor_mirrors {store : MapperStore} {strategy : Strategy}
    {bindings : Bindings} {target : Target} {header : Header} {settings : Settings}
    (serves : Call.Serves (store.mapperFor strategy bindings target header settings).1
      (Mapper.make strategy bindings target header settings)) :
    Mirrors Mapper.Interchangeable
      ((store.mapperFor strategy bindings target header settings).1.map Prod.snd)
      (Mapper.make strategy bindings target header settings) := by
  rw [mapperFor] at serves ⊢
  rcases Store.obtain_cases store (MapperKey.of bindings target header settings) fun _ =>
      Mapper.make strategy bindings target header settings with
    ⟨entry, -, obtained⟩ | ⟨mapper, made, obtained⟩ | ⟨failure, failed, obtained⟩
  · rw [obtained] at serves ⊢
    cases fresh : Mapper.make strategy bindings target header settings with
    | ok another =>
        rw [fresh] at serves
        cases serves with
        | ok same => exact .ok same
    | error failure =>
        rw [fresh] at serves
        cases serves
  · rw [obtained, made]
    exact .ok (.refl mapper)
  · rw [obtained, failed]
    exact .error failure

theorem MapperStore.mapperFor_missing {store : MapperStore} {strategy : Strategy}
    {bindings : Bindings} {target : Target} {header : Header} {settings : Settings}
    (missing : store.get? (MapperKey.of bindings target header settings) = none) :
    (store.mapperFor strategy bindings target header settings).1.map Prod.snd =
      Mapper.make strategy bindings target header settings := by
  rw [mapperFor]
  rcases Store.obtain_cases store (MapperKey.of bindings target header settings) fun _ =>
      Mapper.make strategy bindings target header settings with
    ⟨entry, held, -⟩ | ⟨mapper, made, obtained⟩ | ⟨failure, failed, obtained⟩
  · rw [missing] at held
    cases held
  · rw [obtained, made]
    rfl
  · rw [obtained, failed]
    rfl

/-- Rows are mapped one for each request, with the mapper that a store gives at the first of them.
Without rows there is no answer, and no maker is asked for a mapper; if the store gives none, its
failure is the only answer; else each row has its outcome as its answer, whether or not rows before
it failed. What has ended stays ended. For a key that is new to the store the mapper is a fresh
one, and so are the answers if what the store holds is as good as that. -/
theorem RowMapping.rows_answered (store : MapperStore) (strategy : Strategy) (bindings : Bindings)
    (target : Target) (settings : Settings) (set : ResultSet) (others : List ResultSet) :
    let mapping := fromStore store strategy bindings target settings
    let source : MemorySource := ⟨set :: others, 0⟩
    let header := Header.ofColumns set.columns
    let given := (store.mapperFor strategy bindings target header settings).1
    let fresh := Mapper.make strategy bindings target header settings
    (set.rows = [] → ∀ make request,
        answer { mapping with make } source request = none ∧
        (after { mapping with make } source request).1.mapper = none) ∧
      (set.rows ≠ [] → ∀ failure, given = .error failure →
        mapping.answer source 0 = some (.error failure) ∧
        ∀ request, mapping.answer source (request + 1) = none) ∧
      (∀ place mapper, given = .ok (place, mapper) → ∀ request,
        mapping.answer source request =
          set.rows[request]?.map fun cells => mapper.map ⟨set.columns, cells⟩) ∧
      (∀ request later, mapping.answer source request = none → request ≤ later →
        mapping.answer source later = none) ∧
      (store.get? (MapperKey.of bindings target header settings) = none →
        given.map Prod.snd = fresh) ∧
      (Call.Serves given fresh → ∀ request,
        mapping.answer source request = (set.outcomes fresh)[request]?) := by
  intro mapping source header given fresh
  have answered : ∀ request, mapping.answer source request =
      (set.outcomes (given.map Prod.snd))[request]? :=
    answer_first _ (set :: others)
  refine ⟨fun empty make => answer_empty empty make others, fun filled failure failed => ?_,
    fun place mapper found request => ?_, fun request later => answer_ended,
    MapperStore.mapperFor_missing, fun serves request => ?_⟩
  · obtain ⟨cells, rest, rows⟩ := List.exists_cons_of_ne_nil filled
    have outcomes : set.outcomes (given.map Prod.snd) = [.error failure] := by
      rw [failed, Except.map, ResultSet.outcomes_failed rows]
    refine ⟨?_, fun request => ?_⟩
    · rw [answered, outcomes, List.getElem?_cons_zero]
    · rw [answered, outcomes, List.getElem?_cons_succ, List.getElem?_nil]
  · rw [answered, found, Except.map, ResultSet.outcomes, List.getElem?_map]
  · rw [answered, ResultSet.outcomes_mirrors (MapperStore.mapperFor_mirrors serves)]

namespace Leaves

def set : ResultSet := ⟨parent.columns, [row.cells]⟩

/-- The rows of a parent, asked for when the store has a mapper from before its child was bound. -/
def rows : RowMapping :=
  RowMapping.fromStore session.store .standard session.bindings parent.target parent.settings

theorem rows_answer :
    (rows.answer (⟨[set], 0⟩ : MemorySource) 0).map
      (·.map fun value => (value.field "Child").isNull) = some (.ok true) := by
  decide +kernel

end Leaves

/-- The only row is not answered as a fresh mapper maps it. -/
theorem Leaves.rows_stale :
    ∃ mapper, Leaves.parent.fresh Leaves.session.bindings = .ok mapper ∧
      Leaves.rows.answer (⟨[Leaves.set], 0⟩ : MemorySource) 0 ≠ some (mapper.map Leaves.row) := by
  have fresh := Leaves.parent_fresh
  cases made : Leaves.parent.fresh Leaves.session.bindings with
  | error failure =>
      rw [made] at fresh
      cases fresh
  | ok mapper =>
      refine ⟨mapper, rfl, fun same => ?_⟩
      have answer := Leaves.rows_answer
      rw [made] at fresh
      rw [same] at answer
      have mapped : Leaves.lacksChild mapper = .ok true := Option.some.inj answer
      cases mapped.symm.trans fresh

end Unflatten
