import Unflatten.Proofs.Repetition.Elements
import Unflatten.Proofs.Rows.WholeRow

/-!
# Lists from repeated columns

The root list of a plain type has as many elements as the most frequent name of a property has
columns, and each element holds, property by property, the cells of the columns at its place.
-/

set_option autoImplicit false

namespace Unflatten

open Planning

/-! ## Declared types -/

section Declared

variable {ident implicit : Nat} {name : String} {properties : List Property}

theorem ObjectTypeOf.declare_plain
    (assignable : ∀ property ∈ properties, property.isAssignable = true)
    (noSinks : ∀ property ∈ properties, property.isSink = false)
    (scalar : ∀ property ∈ properties, ∃ leaf, property.target.leaf? = some leaf ∧
      leaf.isAny = false)
    (distinct : properties.Pairwise fun one other => foldName one.name ≠ foldName other.name) :
    (ObjectTypeOf.declare ident name false properties implicit []).IsPlain where
  flat :=
    { isConcrete := rfl
      leaves := fun property member => by
        obtain ⟨leaf, isLeaf, -⟩ := scalar property member
        exact Option.isSome_iff_exists.mpr ⟨leaf, isLeaf⟩
      assignable, noSinks, distinct }
  typed := fun property member leaf isLeaf => by
    obtain ⟨other, same, isScalar⟩ := scalar property member
    obtain rfl := Option.some.inj (same.symm.trans isLeaf)
    exact isScalar
  constructed :=
    ⟨⟨implicit, name, true, false, [], none⟩, by simp [ObjectTypeOf.declare], rfl, rfl, rfl, rfl⟩

end Declared

/-! ## The root list -/

section Roots

variable {bindings : Bindings} {settings : Settings} {columns : List Column} {row : Row}
variable {type : ObjectType}

theorem Mapper.outcome_elements (plain : type.IsPlain)
    (unset : settings.ofType? type.name = none) {elements : List Value}
    (each : (List.range ((Header.ofColumns columns).repetitions type.properties)).map
      (elementAt? ⟨Header.ofColumns columns, settings, bindings⟩ type row) =
        elements.map some) :
    Mapper.outcome bindings settings columns (.list (.object type)) row =
      .ok (.list elements) := by
  let env : Environment := ⟨Header.ofColumns columns, settings, bindings⟩
  let site := Site.atRoot bindings (.list (.object type))
  let pass : Pass := ⟨Claims.none env.header, existingRegister + 1⟩
  have indexed := Header.ofColumns_wellIndexed columns
  have starting : ∀ registers, runStep row registers (.startSequence none pass.nextRegister) =
      .ok (registers.write pass.nextRegister (.list [])) :=
    fun registers => by rw [runStep]; rfl
  obtain ⟨start, between, started, starts, claims, below⟩ :=
    start_evaluates site .sequence starting
  have sized : between.claims.length = env.header.length := by
    rw [claims]
    exact Claims.length_none _
  have reaped : ∀ property ∈ type.properties,
      env.header.Reaped between.claims property.name 0 := by
    intro property _
    rw [claims]
    exact Header.Reaped.start
  obtain ⟨items, last, next, planned, ends, gathers⟩ :=
    @planElements_repeated env site between type 63 plain unset indexed rfl sized reaped
  have gathers := gathers row
  rw [each] at gathers
  have whole : Gives (planItems env (standard env deepestLevel) site none (.object type)) pass
      (some ⟨start.steps ++ appendSteps none start.result items, start.result⟩) next := by
    refine gives_bind.mpr ⟨_, _, isAbsent_root rfl, ?_⟩
    refine gives_bind.mpr ⟨_, _, gives_fresh.mpr ⟨rfl, rfl⟩, ?_⟩
    exact gives_bind.mpr ⟨_, _, started, gives_bind.mpr ⟨_, _, planned,
      gives_pure.mpr ⟨rfl, rfl⟩⟩⟩
  refine Mapper.outcome_planned (inOrder_later rfl (inOrder_later rfl (inOrder_later rfl
    (inOrder_later rfl (inOrder_later rfl (inOrder_first whole)))))) ?_
  refine starts.filled (Nat.le_trans gathers.toItems.registers ends) (fun value same => ?_) nofun
  cases same
  intro registers fits isEmpty
  exact appendSteps_alters gathers below [] registers (Nat.le_trans ends fits) isEmpty

theorem ObjectTypeOf.IsPlain.element (plain : type.IsPlain) {env : Environment} {place : Nat}
    (converts : ∀ property ∈ type.properties,
      (env.header.cellAt? env.rules row place property).isSome = true) :
    ∃ object : Object, elementAt? env type row place = some object.toValue ∧
      object.typeName = type.name ∧
      (∀ property ∈ type.properties,
        object.get? property.name = env.header.cellAt? env.rules row place property) ∧
      ∀ field, (∀ property ∈ type.properties, property.name ≠ field) →
        object.get? field = none := by
  have reached : type.reached? (env.header.cellAt? env.rules row place)
      (type.properties.map fun property => foldName property.name) =
        some (type.partly (env.header.cellAt? env.rules row place)
          (type.properties.map fun property => foldName property.name)) := by
    rw [ObjectTypeOf.reached?, if_pos fun property member _ => converts property member]
  refine ⟨_, by rw [elementAt?, reached]; rfl, fillFields_typeName, fun property member => ?_,
    fun field others => fillFields_other others⟩
  have filled : foldName property.name ∈
      type.properties.map fun property => foldName property.name :=
    List.mem_map.mpr ⟨property, member, rfl⟩
  obtain ⟨value, isCell⟩ := Option.isSome_iff_exists.mp (converts property member)
  rw [ObjectTypeOf.partly, fillFields_same plain.flat.names_distinct member, if_pos filled, isCell]
  rfl

end Roots

/-! ## Packets

Three columns are for the sender of a packet and two for its weight, in any letter case; the note is
for nobody. -/

namespace Packets

def properties : List Property :=
  [{ name := "Sender", target := .scalar .string },
    { name := "Weight", target := .nullable (.scalar (.int .int32)) }]

def columns : List Column :=
  [Column.declare "weight" (.int .int32), Column.declare "sender" .string,
    Column.declare "note" .string, Column.declare "SENDER" .string,
    Column.declare "Weight" (.int .int32), Column.declare "Sender" .string]

def row : Row :=
  ⟨columns, [.int .int32 (FixedInt.wrapping .int32 3), .string "Ada", .string "fragile",
    .string "Bo", .int .int32 (FixedInt.wrapping .int32 7), .string "Cy"]⟩

theorem scalar : ∀ property ∈ properties, ∃ leaf, property.target.leaf? = some leaf ∧
    leaf.isAny = false := by
  simp [properties, Target.leaf?, Leaf.isAny]

theorem converts : ∀ property ∈ properties, ∀ leaf, property.target.leaf? = some leaf →
    ∀ column ∈ (Header.ofColumns columns).bearing property.name,
      ∃ value, readColumn row ⟨column.index, column.name⟩
        (Conversion.select (ConversionRule.inOrder []) leaf column.type) = .ok value := by
  have all : ∀ property ∈ properties, ∀ leaf ∈ property.target.leaf?,
      ∀ column ∈ (Header.ofColumns columns).bearing property.name,
        (readColumn row ⟨column.index, column.name⟩
          (Conversion.select (ConversionRule.inOrder []) leaf column.type)).isOk = true := by
    decide +kernel
  intro property member leaf isLeaf column bears
  have converted := all property member leaf isLeaf column bears
  cases found : readColumn row ⟨column.index, column.name⟩
      (Conversion.select (ConversionRule.inOrder []) leaf column.type) with
  | ok value => exact ⟨value, rfl⟩
  | error failure =>
      rw [found] at converted
      cases converted

end Packets

/-- Repeated columns become the elements of a list: as many as the most frequent name has columns,
and at each place the cells of the columns at this place, or the default of a property that has
fewer. Columns of other names do not matter. -/
theorem Mapper.outcome_repeated {bindings : Bindings} {settings : Settings}
    {columns : List Column} {row : Row} {ident implicit : Nat} {name : String}
    {properties : List Property} (unset : settings.ofType? name = none)
    (assignable : ∀ property ∈ properties, property.isAssignable = true)
    (noSinks : ∀ property ∈ properties, property.isSink = false)
    (scalar : ∀ property ∈ properties, ∃ leaf, property.target.leaf? = some leaf ∧
      leaf.isAny = false)
    (distinct : properties.Pairwise fun one other => foldName one.name ≠ foldName other.name)
    (converts : ∀ property ∈ properties, ∀ leaf, property.target.leaf? = some leaf →
      ∀ column ∈ (Header.ofColumns columns).bearing property.name,
        ∃ value, readColumn row ⟨column.index, column.name⟩
          (Conversion.select (ConversionRule.inOrder settings.rules) leaf column.type) =
            .ok value) :
    ∃ elements,
      Mapper.outcome bindings settings columns
          (.list (.object (ObjectTypeOf.declare ident name false properties implicit []))) row =
        .ok (.list elements) ∧
      elements.length = (Header.ofColumns columns).repetitions properties ∧
      ∀ place < elements.length, ∃ object : Object,
        elements[place]? = some object.toValue ∧ object.typeName = name ∧
        (∀ property ∈ properties, object.get? property.name =
          (Header.ofColumns columns).cellAt? (ConversionRule.inOrder settings.rules) row place
            property) ∧
        ∀ field, (∀ property ∈ properties, property.name ≠ field) → object.get? field = none := by
  let type := ObjectTypeOf.declare ident name false properties implicit []
  let env : Environment := ⟨Header.ofColumns columns, settings, bindings⟩
  have plain : type.IsPlain := ObjectTypeOf.declare_plain assignable noSinks scalar distinct
  have converted (place : Nat) : ∀ property ∈ type.properties,
      (env.header.cellAt? env.rules row place property).isSome = true := by
    intro property member
    obtain ⟨leaf, isLeaf, -⟩ := scalar property member
    rw [Header.cellAt?, isLeaf]
    cases found : (env.header.bearing property.name)[place]? with
    | none => rfl
    | some column =>
        obtain ⟨value, isCell⟩ :=
          converts property member leaf isLeaf column (List.mem_of_getElem? found)
        simp only [Environment.rules, env, isCell]
        rfl
  choose object made typed held others using fun place =>
    plain.element (converted place)
  let count := (Header.ofColumns columns).repetitions properties
  refine ⟨(List.range count).map fun place => (object place).toValue, ?_, by simp [count],
    fun place inside => ⟨object place, ?_, typed place, held place, others place⟩⟩
  · refine Mapper.outcome_elements plain unset ?_
    rw [List.map_map]
    exact List.map_congr_left fun place _ => made place
  · rw [List.length_map, List.length_range] at inside
    simp [inside]

/-- The third packet has a sender of its own but no weight. -/
theorem Packets.listed : ∃ elements,
    Mapper.outcome [] {} Packets.columns
        (.list (.object (ObjectTypeOf.declare 50 "Packet" false Packets.properties 51 [])))
        Packets.row = .ok (.list elements) ∧
      elements.length = 3 ∧ ∃ object : Object, elements[2]? = some object.toValue ∧
        object.get? "Sender" = some (.string "Cy") ∧ object.get? "Weight" = some .null := by
  obtain ⟨elements, mapped, length, each⟩ := @Mapper.outcome_repeated [] {} Packets.columns
    Packets.row 50 51 "Packet" Packets.properties rfl (by decide) (by decide) Packets.scalar
    (by decide) Packets.converts
  have three : elements.length = 3 := by
    rw [length]
    decide
  obtain ⟨object, isThird, -, held, -⟩ := each 2 (by rw [three]; decide)
  refine ⟨elements, mapped, three, object, isThird, ?_, ?_⟩
  · exact held { name := "Sender", target := .scalar .string } (by simp [Packets.properties])
  · exact held { name := "Weight", target := .nullable (.scalar (.int .int32)) }
      (by simp [Packets.properties])

/-! ## Bags

The only property of a bag is a sink. -/

namespace Bags

def properties : List Property :=
  [{ name := "Rest", target := .scalar (.int .int32), isSink := true }]

def columns : List Column :=
  [Column.declare "Rest" (.int .int32)]

def row : Row :=
  ⟨columns, [.int .int32 (FixedInt.wrapping .int32 5)]⟩

/-- How many bags there are. -/
def count : Except Failure (Option Nat) :=
  (Mapper.outcome [] {} columns
    (.list (.object (ObjectTypeOf.declare 60 "Bag" false properties 61 []))) row).map fun value =>
      match value with
      | .sequence .list bags => some bags.length
      | _ => none

end Bags

/-- A sink takes no column of its name, so the list stays empty. -/
theorem Bags.rest_unlisted :
    (∀ property ∈ Bags.properties, property.isAssignable = true ∧ property.target.isLeaf = true ∧
      property.target.isAny = false) ∧
    (Header.ofColumns Bags.columns).repetitions Bags.properties = 1 ∧
    Bags.count = .ok (some 0) := by
  refine ⟨by decide, by decide, by decide +kernel⟩

end Unflatten
