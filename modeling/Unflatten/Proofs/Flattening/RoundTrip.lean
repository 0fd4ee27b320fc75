import Unflatten.Mapper
import Unflatten.Proofs.Conformance.Runs
import Unflatten.Proofs.Flattening.Records
import Unflatten.Proofs.Planning.Linearity

/-!
# The round trip of flattened instances

An instance that is flattened to a row of cells, in any order, and mapped back is the same again. At
the root all columns are unclaimed and all of them belong to the instance.
-/

set_option autoImplicit false

namespace Unflatten

open Planning

/-- The row of the cells, each under its own column. -/
def Row.ofCells (cells : List (Column × Value)) : Row :=
  ⟨cells.map Prod.fst, cells.map Prod.snd⟩

section Roots

variable {bindings : Bindings} {separator : Char} {type : ObjectType} {value : Value}
variable {cells : List (Column × Value)}

theorem mem_ofCells {column : HeaderColumn}
    (member : column ∈ Header.ofColumns (Row.ofCells cells).columns) :
    ∃ cell ∈ cells, column.Shows (Row.ofCells cells) cell := by
  obtain ⟨⟨written, index⟩, isWritten, rfl⟩ := List.mem_map.mp member
  have isColumn := List.mem_zipIdx_iff_getElem?.mp isWritten
  simp only [Row.ofCells, List.getElem?_map, Option.map_eq_some_iff] at isColumn
  obtain ⟨cell, found, rfl⟩ := isColumn
  refine ⟨cell, List.mem_of_getElem? found, rfl, rfl, ?_⟩
  simp [Row.value, Row.ofCells, found]

theorem ofCells_shows {cell : Column × Value} (member : cell ∈ cells) :
    ∃ column ∈ Header.ofColumns (Row.ofCells cells).columns,
      column.Shows (Row.ofCells cells) cell := by
  obtain ⟨index, found⟩ := List.mem_iff_getElem?.mp member
  refine ⟨⟨index, cell.1.name, foldName cell.1.name, cell.1.type, cell.1.provider⟩, ?_, rfl, rfl,
    ?_⟩
  · refine List.mem_map.mpr ⟨(cell.1, index), List.mem_zipIdx_iff_getElem?.mpr ?_, rfl⟩
    simp [Row.ofCells, found]
  · simp [Row.value, Row.ofCells, found]

theorem Place.root (ascii : separator.toNat < 0x80) {depth : Nat}
    (nests : NestsWithin bindings separator depth type) (whole : IsWhole bindings type value)
    (flat : cells.Perm (flatten bindings separator.toString type [] value)) :
    Place (Header.ofColumns (Row.ofCells cells).columns) (Row.ofCells cells) bindings separator
      depth .root type [] value where
  ascii := ascii
  isAt := Scope.root_isAt separator
  nests := nests
  whole := whole
  covers := by
    refine ⟨fun column isColumn _ => ?_, fun cell isCell => ?_⟩
    · obtain ⟨cell, isCell, shows⟩ := mem_ofCells isColumn
      exact ⟨cell, flat.mem_iff.mp isCell, shows⟩
    · exact ofCells_shows (flat.mem_iff.mpr isCell)

end Roots

theorem Plan.run_rebuilds {row : Row} {plan : Plan} {next : Pass} {value : Value}
    (rebuilds : Rebuilds row (some existingRegister) plan.program next value)
    (started : 0 < next.nextRegister) (fits : next.nextRegister ≤ plan.registerCount) :
    plan.run row .null = .ok value :=
  Except.ok_iff_toOption.mpr (Plan.run_evaluates (rebuilds_iff.mp rebuilds) started fits)

/-! ## Houses

A house has a street and an owner, who is told about in columns of their own. The owner's age is not
known. -/

namespace Houses

def owner : ObjectType :=
  ObjectTypeOf.declare 1 "Owner" false
    [{ name := "Name", target := .scalar .string },
      { name := "age", target := .nullable (.scalar (.int .int32)) }] 11 []

def house : ObjectType :=
  ObjectTypeOf.declare 2 "House" false
    [{ name := "Street", target := .scalar .string },
      { name := "owner", target := .object owner }] 12 []

def ownerFields : List (String × Value) :=
  [("Name", .string "Ada"), ("age", .null)]

def houseFields : List (String × Value) :=
  [("Street", .string "Mill Lane"), ("owner", .object owner.name ownerFields)]

theorem owner_record : owner.IsRecord '_' where
  implicit := ⟨11, rfl⟩
  segments := by decide
  distinct := by decide
  assignable := by decide
  noSinks := by decide
  scalar := ⟨_, List.mem_cons_self, rfl⟩

theorem house_record : house.IsRecord '_' where
  implicit := ⟨12, rfl⟩
  segments := by decide
  distinct := by decide
  assignable := by decide
  noSinks := by decide
  scalar := ⟨_, List.mem_cons_self, rfl⟩

theorem owner_properties {property : Property} (member : property ∈ owner.properties) :
    property = { name := "Name", target := .scalar .string } ∨
      property = { name := "age", target := .nullable (.scalar (.int .int32)) } := by
  simpa [owner, ObjectTypeOf.declare] using member

theorem house_properties {property : Property} (member : property ∈ house.properties) :
    property = { name := "Street", target := .scalar .string } ∨
      property = { name := "owner", target := .object owner } := by
  simpa [house, ObjectTypeOf.declare] using member

theorem house_nested {property : Property} {inner : ObjectType}
    (member : property ∈ house.properties)
    (isObject : property.target.resolve [] = .object inner) :
    property.name = "owner" ∧ inner = owner := by
  rcases house_properties member with rfl | rfl
  · cases isObject
  · cases isObject
    exact ⟨rfl, rfl⟩

theorem owner_scalars :
    ∀ property ∈ owner.properties, property.target.primitive?.isSome = true := by
  decide

theorem house_nests : NestsWithin [] '_' 64 house := by
  refine NestsWithin.nested house_record ?_ ?_
  · intro property member
    rcases house_properties member with rfl | rfl
    · exact Or.inl rfl
    · exact Or.inr ⟨owner, rfl⟩
  · intro property member inner isObject
    obtain ⟨-, rfl⟩ := house_nested member isObject
    exact NestsWithin.flat owner_record owner_scalars

theorem owner_whole : IsWhole [] owner (.object owner.name ownerFields) := by
  refine IsWhole.object ?_ (fun name => ?_) ?_ ?_
  · unfold Entries.Sorted
    decide
  · exact @List.mem_map _ _ name PropertyOf.name owner.properties
  · intro property member scalar isScalar value isField
    rcases owner_properties member with rfl | rfl
    · cases isScalar
      obtain rfl : value = .string "Ada" := by simpa [ownerFields] using isField
      exact Or.inl rfl
    · obtain rfl : value = .null := by simpa [ownerFields] using isField
      exact Or.inr ⟨rfl, rfl⟩
  · intro property member inner isObject
    have isScalar := owner_scalars property member
    rw [Target.primitive?_object isObject] at isScalar
    cases isScalar

theorem house_whole : IsWhole [] house (.object house.name houseFields) := by
  refine IsWhole.object ?_ (fun name => ?_) ?_ ?_
  · unfold Entries.Sorted
    decide
  · exact @List.mem_map _ _ name PropertyOf.name house.properties
  · intro property member scalar isScalar value isField
    rcases house_properties member with rfl | rfl
    · cases isScalar
      obtain rfl : value = .string "Mill Lane" := by simpa [houseFields] using isField
      exact Or.inl rfl
    · cases isScalar
  · intro property member inner isObject value isField
    obtain ⟨named, rfl⟩ := house_nested member isObject
    obtain rfl : value = .object owner.name ownerFields := by
      simpa [houseFields, named] using isField
    exact owner_whole

def cells : List (Column × Value) :=
  [(Column.declare "owner_age" (.int .int32), .null),
    (Column.declare "Street" .string, .string "Mill Lane"),
    (Column.declare "owner_Name" .string, .string "Ada")]

theorem cells_flat :
    cells.Perm (flatten [] ('_').toString house [] (.object house.name houseFields)) := by
  have flattened : flatten [] ('_').toString house [] (.object house.name houseFields) =
      [(Column.declare "Street" .string, .string "Mill Lane"),
        (Column.declare "owner_Name" .string, .string "Ada"),
        (Column.declare "owner_age" (.int .int32), .null)] := by
    rfl
  rw [flattened]
  exact @List.perm_append_comm _ [_] [_, _]

end Houses

/-- A whole instance of a record type with at most 64 levels of nested types, flattened to cells in
any order, is mapped back to itself. -/
theorem Mapper.map_flatten {bindings : Bindings} {separator : Char} {type : ObjectType}
    {value : Value} {cells : List (Column × Value)} (ascii : separator.toNat < 0x80)
    (nests : NestsWithin bindings separator 64 type) (whole : IsWhole bindings type value)
    (flat : cells.Perm (flatten bindings separator.toString type [] value)) :
    ∃ mapper,
      Mapper.make .standard bindings (.object type)
          (Header.ofColumns (Row.ofCells cells).columns) { separator := separator.toString } =
        .ok mapper ∧
      mapper.map (Row.ofCells cells) = .ok value := by
  let env : Environment := ⟨Header.ofColumns (Row.ofCells cells).columns,
    { separator := separator.toString }, bindings⟩
  let start : Pass := ⟨Claims.none env.header, existingRegister + 1⟩
  have indexed : env.header.WellIndexed := Header.ofColumns_wellIndexed _
  have sized : start.claims.length = env.header.length := by
    simp [start, Claims.none]
  have known : ∀ register, (Site.atRoot bindings (.object type)).existing = some register →
      register < start.nextRegister :=
    Register.known_existing rfl (Nat.lt_succ_self _)
  have free : Free env .root start := fun column _ _ => Claims.isClaimed_none _ _
  have restoring : Restoring env (Row.ofCells cells) separator (deepestLevel + 1)
      (standard env (deepestLevel + 1)) := standard_restores rfl indexed (deepestLevel + 1)
  obtain ⟨program, next, planned, rebuilds, -⟩ :=
    @Restoring.restores _ _ _ _ _ restoring 64 (Site.atRoot bindings (.object type)) _ _ _ _
      (Nat.lt_succ_self 64) (Place.root ascii nests whole flat) rfl sized known free
  have started : 0 < next.nextRegister := by
    have onward := (restoring.reliable.plans sized known planned).block.onward.registers
    exact Nat.lt_of_lt_of_le (Nat.succ_pos _) onward
  have made : Plan.ofTarget .standard env (.object type) =
      .ok (Plan.ofProgram program next.nextRegister) := by
    unfold Plan.ofTarget planWith
    simp only []
    rw [show standard env (deepestLevel + 1) (Site.atRoot env.bindings (.object type)) start =
      (.ok (some program), next) from planned]
  refine ⟨⟨.object type, Plan.ofProgram program next.nextRegister⟩, ?_, ?_⟩
  · rw [Mapper.make, made]
    rfl
  · exact Plan.run_rebuilds rebuilds started (Nat.le_max_left _ _)

theorem Houses.mapped_back : ∃ mapper,
    Mapper.make .standard [] (.object Houses.house)
        (Header.ofColumns (Row.ofCells Houses.cells).columns) { separator := ('_').toString } =
      .ok mapper ∧
      mapper.map (Row.ofCells Houses.cells) =
        .ok (.object Houses.house.name Houses.houseFields) :=
  Mapper.map_flatten (by decide) Houses.house_nests Houses.house_whole Houses.cells_flat

end Unflatten
