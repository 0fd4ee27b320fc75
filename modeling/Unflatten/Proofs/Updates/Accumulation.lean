import Unflatten.Mapper
import Unflatten.Proofs.Updates.Filling

/-!
# Rows that are gathered in a container

A row that is mapped onto a list is appended to it, and one that is mapped onto a map is merged into
it: what a row adds is what it maps to on its own. So rows that are mapped one onto the other come to
the concatenation, or to the union, of what they map to separately.
-/

set_option autoImplicit false

namespace Unflatten

open Planning

/-! ## Programs of the root -/

section Roots

variable {env : Environment} {site : Site} {pass next : Pass} {program : Program} {levels : Nat}

theorem Planning.standard_container
    (isContainer : (∃ element, site.target = .list element) ∨ ∃ value, site.target = .map value)
    (given : Gives (standard env levels site) pass (some program) next) :
    ∃ below,
      (∃ element, site.target = .list element ∧
        Gives (planItems env (standard env below) site none element) pass (some program) next) ∨
      ∃ value, site.target = .map value ∧
        Gives (planEntries env (standard env below) site none value) pass (some program) next := by
  have noLeaf : site.target.leaf? = none := by
    rcases isContainer with ⟨element, same⟩ | ⟨value, same⟩ <;> rw [same] <;> rfl
  rcases standard_gives given with ⟨impossible, -⟩ |
    ⟨below, -, planner, member, planned, same, given⟩
  · cases impossible
  cases same
  refine ⟨below, ?_⟩
  simp only [standardPlanners, List.mem_cons, List.not_mem_nil, or_false] at member
  rcases member with rfl | rfl | rfl | rfl | rfl | rfl | rfl
  · rcases planUntypedMember_gives given with ⟨impossible, -⟩ | ⟨-, given⟩
    · cases impossible
    · rcases planUntyped_gives given with ⟨impossible, -⟩ | ⟨_, _, -, isLeaf, -⟩
      · cases impossible
      · cases noLeaf.symm.trans isLeaf
  · rcases planLeaf_gives given with ⟨impossible, -⟩ | ⟨_, _, -, isLeaf, -⟩
    · cases impossible
    · cases noLeaf.symm.trans isLeaf
  · rcases planTuple_gives given with ⟨impossible, -⟩ | ⟨_, _, _, _, -, isTuple, -⟩
    · cases impossible
    · simp [isTuple] at isContainer
  · rcases planArray_gives given with ⟨impossible, -⟩ | ⟨_, _, _, _, -, isArray, -⟩
    · cases impossible
    · simp [isArray] at isContainer
  · rcases planDictionary_gives given with ⟨impossible, -⟩ | ⟨value, isMap, given⟩ |
      ⟨_, isDictionary, -⟩
    · cases impossible
    · exact Or.inr ⟨value, isMap, given⟩
    · simp [isDictionary] at isContainer
  · rcases planSequence_gives given with ⟨impossible, -⟩ | ⟨element, isList, given⟩ |
      ⟨_, isSequence, -⟩
    · cases impossible
    · exact Or.inl ⟨element, isList, given⟩
    · simp [isSequence] at isContainer
  · rcases planObject_gives given with ⟨impossible, -⟩ | ⟨_, _, -, isObject, -⟩
    · cases impossible
    · simp [isObject] at isContainer

end Roots

section Mappers

variable {bindings : Bindings} {settings : Settings} {target : Target} {columns : List Column}
variable {mapper : Mapper} {row : Row}

section Rows

variable {rows : List Row}

end Rows

/-- Every row maps to a map. Mapped onto a map it is merged into it and wins, and rows that are
mapped one onto the other come to their maps merged from the first to the last. -/
structure Mapper.Merges (mapper : Mapper) : Prop where
  isMap : ∀ row value, mapper.map row = .ok value → ∃ entries, value = .map entries
  merges : ∀ row entries, mapper.map row = .ok (.map entries) →
    ∀ present, mapper.update row (.map present) = .ok (.map (Entries.union present entries)) ∧
      ∀ key, (Entries.union present entries).get? key =
        (Entries.get? key entries).or (Entries.get? key present)
  gathers : ∀ rows maps,
    List.Forall₂ (fun row entries => mapper.map row = .ok (.map entries)) rows maps →
      rows.foldlM (fun existing row => mapper.update row existing) .null =
        .ok (if rows.isEmpty then .null else .map (maps.foldl Entries.union []))

end Mappers

/-! ### Rosters

Players with their scores; a row has two of them. -/

namespace Rosters

def player : ObjectType :=
  ObjectTypeOf.declare 1 "Player" false
    [{ name := "Name", target := .scalar .string },
      { name := "Scores", target := .list (.scalar (.int .int32)) }] 2 []

def columns : List Column :=
  [Column.declare "name" .string, Column.declare "scores" (.int .int32),
    Column.declare "name" .string]

def row (first second : String) (score : Int) : Row :=
  ⟨columns, [.string first, .int .int32 (FixedInt.wrapping .int32 score), .string second]⟩

def mapper? : Except Failure Mapper :=
  Mapper.make .standard [] (.list (.object player)) (Header.ofColumns columns) {}

def count (value : Value) : Option Nat :=
  value.items?.map List.length

theorem mapped : (mapper?.bind fun mapper => (mapper.map (row "Ada" "Bo" 3)).bind fun first =>
    (mapper.map (row "Cy" "Di" 5)).map fun second => (count first, count second)) =
      .ok (some 2, some 2) := by
  decide +kernel

end Rosters

end Unflatten
