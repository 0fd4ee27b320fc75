import Mathlib.Data.List.Find
import Unflatten.Mapper
import Unflatten.Proofs.Rows.Cells
import Unflatten.Proofs.Rows.Leaves
import Unflatten.Proofs.Scopes.Groups

/-!
# Whole rows

A root target that is a list, an array or a map of leaves takes every column of the row, and so does
an untyped root: nothing is lost and nothing is taken twice.
-/

set_option autoImplicit false

namespace Unflatten

open Planning

/-- What a row is mapped to by a mapper that is made for these columns. -/
def Mapper.outcome (bindings : Bindings) (settings : Settings) (columns : List Column)
    (target : Target) (row : Row) : Except Failure Value :=
  (Mapper.make .standard bindings target (Header.ofColumns columns) settings).bind fun mapper =>
    mapper.map row

/-- The cells of a row, each as the leaf. -/
def Row.cellsAs (row : Row) (settings : Settings) (leaf : Leaf) (columns : List Column) :
    Except ConversionFault (List Value) :=
  (Header.ofColumns columns).mapM fun column =>
    (Conversion.select (ConversionRule.inOrder settings.rules) leaf column.type).apply
      (row.value column.index)

def Leaf.untyped : Leaf :=
  ⟨.any, true⟩

/-- No rule of the caller's own makes a container of a leaf. -/
def Settings.KeepsLeaves (settings : Settings) : Prop :=
  ∀ rule ∈ settings.rules, rule.KeepsLeaves

def Row.HoldsLeaves (row : Row) (columns : List Column) : Prop :=
  ∀ index < columns.length, (row.value index).isLeaf = true

instance (row : Row) (columns : List Column) : Decidable (row.HoldsLeaves columns) :=
  inferInstanceAs (Decidable (∀ index < columns.length, (row.value index).isLeaf = true))

/-- The values of the columns whose names have this fold. -/
def valuesNamed (folded : String) (columns : List Column) (values : List Value) : List Value :=
  ((columns.zip values).filter fun cell => foldName cell.1.name == folded).map Prod.snd

/-- One key for each name, letter case aside, in the spelling of its first column, with the one
value of its column or the array of the values of all its columns. -/
structure HoldsRow (columns : List Column) (values : List Value) (entries : Entries Value) :
    Prop where
  sorted : entries.Sorted
  distinct : (entries.names.map foldName).Nodup
  covered : ∀ column ∈ columns, foldName column.name ∈ entries.names.map foldName
  spelt : ∀ entry ∈ entries, ∃ first,
    columns.find? (fun column => foldName column.name == foldName entry.1) = some first ∧
      entry.1 = first.name
  held : ∀ entry ∈ entries,
    entry.2 = Value.ofCells (valuesNamed (foldName entry.1) columns values)

/-! ## Columns and their cells -/

def HeaderColumn.declared (column : HeaderColumn) : Column :=
  ⟨column.name, column.type, column.provider⟩

namespace Header

variable {header : Header} {columns : List Column} {column : HeaderColumn}

theorem ofColumns_declared (columns : List Column) :
    (ofColumns columns).map HeaderColumn.declared = columns := by
  unfold ofColumns
  rw [List.map_map]
  exact List.zipIdx_map_fst 0 columns

theorem ofColumns_length (columns : List Column) :
    (ofColumns columns).length = columns.length := by
  rw [ofColumns, List.length_map, List.length_zipIdx]

theorem find?_declared {folded : String} {first : HeaderColumn}
    (found : List.find? (fun column => column.folded == folded) (ofColumns columns) =
      some first) :
    columns.find? (fun column => foldName column.name == folded) = some first.declared := by
  have same : ∀ column ∈ ofColumns columns,
      (foldName column.declared.name == folded) = (column.folded == folded) := by
    intro column member
    rw [ofColumns_isFolded member]
    rfl
  nth_rewrite 1 [← ofColumns_declared columns]
  rw [List.find?_map, Function.comp_def, List.find?_congr same, found]
  rfl

theorem WellIndexed.get? (indexed : header.WellIndexed) (member : column ∈ header) :
    header[column.index]? = some column := by
  obtain ⟨index, inside, rfl⟩ := List.mem_iff_getElem.mp member
  have placed : (header.map HeaderColumn.index)[index]? = (List.range header.length)[index]? :=
    congrArg (·[index]?) indexed
  have same : header[index].index = index := by
    simpa [inside] using placed
  rw [same]
  exact List.getElem?_eq_getElem inside

end Header

/-- The value at the place of a column. -/
def valueAt (values : List Value) (column : HeaderColumn) : Value :=
  values[column.index]?.getD .null

theorem Except.mapM_each {ε α β : Type} {convert : α → Except ε β} {items : List α}
    {results : List β} (given : items.mapM convert = .ok results) :
    List.Forall₂ (fun item result => convert item = .ok result) items results := by
  induction items generalizing results with
  | nil =>
      cases given
      exact .nil
  | cons item rest ih =>
      rw [List.mapM_cons] at given
      obtain ⟨first, converted, given⟩ := Except.bind_eq_ok given
      obtain ⟨others, convertedRest, given⟩ := Except.bind_eq_ok given
      cases given
      exact .cons converted (ih convertedRest)

section Cells

variable {row : Row} {settings : Settings} {leaf : Leaf} {columns : List Column}
variable {values : List Value}

theorem Row.cellsAs_length (converted : row.cellsAs settings leaf columns = .ok values) :
    values.length = columns.length := by
  rw [← (Except.mapM_each converted).length_eq, Header.ofColumns_length]

theorem Row.cellsAs_values (converted : row.cellsAs settings leaf columns = .ok values) :
    (Header.ofColumns columns).map (valueAt values) = values := by
  have length := Row.cellsAs_length converted
  apply List.ext_getElem
  · rw [List.length_map, length, Header.ofColumns_length]
  · intro index _ inside
    simp [Header.ofColumns, valueAt, inside]

theorem Row.cellsAs_converts {bindings : Bindings}
    (converted : row.cellsAs settings leaf columns = .ok values) :
    (Header.ofColumns columns).Converts ⟨Header.ofColumns columns, settings, bindings⟩ row leaf
      (valueAt values) := by
  obtain ⟨length, each⟩ := List.forall₂_iff_get.mp (Except.mapM_each converted)
  intro column member
  obtain ⟨inside, found⟩ :=
    List.getElem?_eq_some_iff.mp ((Header.ofColumns_wellIndexed columns).get? member)
  have inValues : column.index < values.length := by
    rw [← length]
    exact inside
  have given := each column.index inside inValues
  rw [List.get_eq_getElem, found, List.get_eq_getElem] at given
  rw [readColumn, Environment.rules, given, valueAt, List.getElem?_eq_getElem inValues,
    Option.getD_some]

theorem valuesNamed_header (folded : String) (values : List Value)
    (placed : (Header.ofColumns columns).map (valueAt values) = values) :
    valuesNamed folded columns values =
      ((Header.ofColumns columns).filter fun column => column.folded == folded).map
        (valueAt values) := by
  have paired : columns.zip values = (Header.ofColumns columns).map fun column =>
      (column.declared, valueAt values column) := by
    rw [← List.zip_map', Header.ofColumns_declared, placed]
  rw [valuesNamed, paired, List.filter_map, List.map_map]
  refine congrArg (List.map (valueAt values)) (List.filter_congr fun column member => ?_)
  rw [Header.ofColumns_isFolded member]
  rfl

end Cells

/-! ## Entries of a whole row -/

section Entries

variable {columns : List Column} {values : List Value}

theorem Value.leafCount_ofCells (values : List Value) :
    (Value.ofCells values).leafCount = Value.leafCountItems values := by
  match values with
  | [] => rfl
  | [value] => rfl
  | _ :: _ :: _ => rfl

/-- The entries of the groups of a header. -/
def groupedEntries (columns : List Column) (values : List Value) : Entries Value :=
  Entries.ofList (((Header.ofColumns columns).namesakes
    (Claims.none (Header.ofColumns columns)) .root).map (entryOf (valueAt values)))

theorem foldName_display {groups : List Namesakes}
    (grouped : GroupsOf (Header.ofColumns columns) groups) {group : Namesakes}
    (member : group ∈ groups) : foldName group.display = group.localName := by
  obtain ⟨first, found, display⟩ := grouped.spelt group member
  have named := List.find?_some found
  rw [beq_iff_eq, Header.ofColumns_isFolded (List.mem_of_find?_eq_some found)] at named
  rw [display, named]

theorem foldName_entries {groups : List Namesakes}
    (grouped : GroupsOf (Header.ofColumns columns) groups) :
    (Entries.names (groups.map (entryOf (valueAt values)))).map foldName =
      groups.map Namesakes.localName := by
  rw [Entries.names, List.map_map, List.map_map]
  exact List.map_congr_left fun group member => foldName_display grouped member

theorem ofList_groups {groups : List Namesakes}
    (grouped : GroupsOf (Header.ofColumns columns) groups) :
    (Entries.ofList (groups.map (entryOf (valueAt values)))).Perm
      (groups.map (entryOf (valueAt values))) := by
  have distinct := grouped.distinct
  rw [← @foldName_entries columns values groups grouped] at distinct
  exact Entries.ofList_perm (List.Nodup.of_map _ distinct)

theorem holdsRow_groups {groups : List Namesakes}
    (grouped : GroupsOf (Header.ofColumns columns) groups)
    (placed : (Header.ofColumns columns).map (valueAt values) = values) :
    HoldsRow columns values (Entries.ofList (groups.map (entryOf (valueAt values)))) := by
  have same := @ofList_groups columns values groups grouped
  have sameNames := (same.map Prod.fst).map foldName
  have foldedNames := @foldName_entries columns values groups grouped
  rw [Entries.names] at foldedNames
  rw [foldedNames] at sameNames
  refine ⟨Entries.ofList_sorted _, sameNames.nodup_iff.mpr grouped.distinct,
    fun column member => ?_, fun entry member => ?_, fun entry member => ?_⟩
  · rw [← Header.ofColumns_declared columns] at member
    obtain ⟨inHeader, isColumn, rfl⟩ := List.mem_map.mp member
    have named := grouped.covered inHeader isColumn
    rw [Header.ofColumns_isFolded isColumn] at named
    exact sameNames.mem_iff.mpr named
  · obtain ⟨group, isGroup, rfl⟩ := List.mem_map.mp (same.mem_iff.mp member)
    obtain ⟨first, found, display⟩ := grouped.spelt group isGroup
    refine ⟨first.declared, ?_, display⟩
    rw [entryOf, foldName_display grouped isGroup]
    exact Header.find?_declared found
  · obtain ⟨group, isGroup, rfl⟩ := List.mem_map.mp (same.mem_iff.mp member)
    rw [valuesNamed_header _ values placed, entryOf, foldName_display grouped isGroup,
      grouped.held group isGroup]

theorem leafCountEntries_groups (value : HeaderColumn → Value) (groups : List Namesakes) :
    Value.leafCountEntries (groups.map (entryOf value)) =
      Value.leafCountItems ((groups.flatMap Namesakes.columns).map value) := by
  induction groups with
  | nil => rfl
  | cons group rest ih =>
      rw [List.map_cons, List.flatMap_cons, List.map_append, Value.leafCountItems_append, ← ih,
        entryOf, Value.leafCountEntries, Value.leafCount_ofCells]

theorem leafCount_groups {groups : List Namesakes}
    (grouped : GroupsOf (Header.ofColumns columns) groups)
    (all : (groups.flatMap Namesakes.columns).Perm (Header.ofColumns columns))
    (placed : (Header.ofColumns columns).map (valueAt values) = values) :
    (Value.map (Entries.ofList (groups.map (entryOf (valueAt values))))).leafCount =
      Value.leafCountItems values := by
  rw [Value.leafCount, Value.leafCountEntries_perm (ofList_groups grouped),
    leafCountEntries_groups, Value.leafCountItems_perm (all.map (valueAt values)), placed]

end Entries

/-! ## Root targets -/

section Roots

variable {bindings : Bindings} {settings : Settings} {columns : List Column} {row : Row}
variable {target element : Target} {leaf : Leaf} {values : List Value}

/-- The first planner that does not decline the root decides the outcome. -/
theorem Mapper.outcome_planned {program : Program} {next : Pass} {value : Value}
    (planned : Gives
      (inOrder (Site.atRoot bindings target)
        (standardPlanners ⟨Header.ofColumns columns, settings, bindings⟩
          (standard ⟨Header.ofColumns columns, settings, bindings⟩ deepestLevel)))
      ⟨Claims.none (Header.ofColumns columns), existingRegister + 1⟩ (some program) next)
    (evaluates : Evaluates row (some existingRegister) program next (some value)) :
    Mapper.outcome bindings settings columns target row = .ok value := by
  have made : Plan.ofTarget .standard ⟨Header.ofColumns columns, settings, bindings⟩ target =
      .ok (Plan.ofProgram program next.nextRegister) := by
    unfold Plan.ofTarget planWith standard
    simp only []
    rw [planned]
  obtain ⟨final, given, whole, -⟩ :=
    Plan.ofTarget_planned (Header.ofColumns_wellIndexed columns) made
  cases given.symm.trans planned
  have onward := whole.block.onward.registers
  rw [Mapper.outcome, Mapper.make, made, Except.ok_iff_toOption]
  exact Plan.run_evaluates evaluates (Nat.lt_of_lt_of_le (Nat.succ_pos _) onward)
    (Nat.le_max_left _ _)

variable (converted : row.cellsAs settings leaf columns = .ok values)

theorem Header.ofColumns_unclaimed (columns : List Column) :
    Unclaimed ⟨Claims.none (Header.ofColumns columns), existingRegister + 1⟩
      ((Header.ofColumns columns).available (Claims.none (Header.ofColumns columns)) .root) :=
  Header.available_unclaimed .root (Header.ofColumns_wellIndexed columns) (Claims.length_none _)

include converted

theorem Row.cellsAs_offered :
    Header.Converts
      ((Header.ofColumns columns).available (Claims.none (Header.ofColumns columns)) .root)
      ⟨Header.ofColumns columns, settings, bindings⟩ row leaf (valueAt values) := by
  rw [Header.available_root]
  exact Row.cellsAs_converts converted

theorem Mapper.outcome_list (isLeaf : element.leaf? = some leaf) :
    Mapper.outcome bindings settings columns (.list element) row = .ok (.list values) := by
  obtain ⟨program, next, planned, evaluates⟩ := planItems_evaluates
    ⟨Header.ofColumns columns, settings, bindings⟩
    (standard ⟨Header.ofColumns columns, settings, bindings⟩ deepestLevel)
    (Site.atRoot bindings (.list element)) (Header.ofColumns_unclaimed columns)
    (Row.cellsAs_offered converted) rfl isLeaf
  have offered := Header.available_root (Header.ofColumns columns)
  simp only [Site.atRoot, offered, Row.cellsAs_values converted] at evaluates
  exact Mapper.outcome_planned (inOrder_later rfl (inOrder_later rfl (inOrder_later rfl
    (inOrder_later rfl (inOrder_later rfl (inOrder_first planned)))))) evaluates

theorem Mapper.outcome_array (isLeaf : element.leaf? = some leaf) :
    Mapper.outcome bindings settings columns (.array element) row = .ok (.array values) := by
  obtain ⟨program, next, planned, evaluates⟩ := planArray_evaluates
    ⟨Header.ofColumns columns, settings, bindings⟩
    (standard ⟨Header.ofColumns columns, settings, bindings⟩ deepestLevel)
    (Site.atRoot bindings (.array element)) (Header.ofColumns_unclaimed columns)
    (Row.cellsAs_offered converted) rfl isLeaf rfl
  have offered := Header.available_root (Header.ofColumns columns)
  simp only [Site.atRoot, offered, Row.cellsAs_values converted] at evaluates
  exact Mapper.outcome_planned
    (inOrder_later rfl (inOrder_later rfl (inOrder_later rfl (inOrder_first planned)))) evaluates

theorem Mapper.outcome_map (isLeaf : element.leaf? = some leaf) :
    Mapper.outcome bindings settings columns (.map element) row =
      .ok (.map (groupedEntries columns values)) := by
  obtain ⟨program, next, planned, evaluates⟩ := planEntries_evaluates
    ⟨Header.ofColumns columns, settings, bindings⟩
    (standard ⟨Header.ofColumns columns, settings, bindings⟩ deepestLevel)
    (Site.atRoot bindings (.map element)) (Header.ofColumns_unclaimed columns)
    (Row.cellsAs_offered converted) rfl isLeaf
  refine Mapper.outcome_planned ?_ evaluates
  exact inOrder_later rfl (inOrder_later rfl (inOrder_later rfl (inOrder_later rfl
    (inOrder_first planned))))

theorem Mapper.outcome_untyped (isUntyped : target.isAny = true) (isAny : leaf = .untyped) :
    Mapper.outcome bindings settings columns target row =
      .ok (.map (groupedEntries columns values)) := by
  subst isAny
  have isLeaf : target.leaf? = some .untyped := by
    cases target with
    | any | dynamic => rfl
    | _ => cases isUntyped
  have same : target.resolve bindings = target := by
    cases target with
    | any | dynamic => rfl
    | _ => cases isUntyped
  have site : Site.atRoot bindings target = ⟨target, .root, some existingRegister, .root⟩ := by
    rw [Site.atRoot, same]
  obtain ⟨program, next, planned, evaluates⟩ := planUntyped_evaluates
    ⟨Header.ofColumns columns, settings, bindings⟩ ⟨target, .root, some existingRegister, .root⟩
    (Header.ofColumns_unclaimed columns)
    (Row.cellsAs_offered converted) rfl isLeaf rfl
  refine Mapper.outcome_planned (inOrder_first ?_) evaluates
  rw [planUntypedMember, site, takesAllColumns, isUntyped]
  exact planned

end Roots

/-! ## Cells as they are -/

section Cells

variable {row : Row} {settings : Settings} {columns : List Column} {leaf : Leaf}
variable {values : List Value}

theorem groupedEntries_hold (converted : row.cellsAs settings leaf columns = .ok values) :
    HoldsRow columns values (groupedEntries columns values) :=
  holdsRow_groups (Header.namesakes_root fun _ member => Header.ofColumns_isFolded member)
    (Row.cellsAs_values converted)

theorem Except.mapM_ok {ε α β : Type} {convert : α → Except ε β} {result : α → β}
    {items : List α} (each : ∀ item ∈ items, convert item = .ok (result item)) :
    items.mapM convert = .ok (items.map result) := by
  induction items with
  | nil => rfl
  | cons item rest ih =>
      rw [List.mapM_cons, each item (by simp), ih fun other member => each other (by simp [member])]
      rfl

theorem Row.cellsAs_untyped
    (unruled : ∀ rule ∈ settings.rules, ∀ type, rule.applies .untyped type = false) :
    row.cellsAs settings .untyped columns = .ok ((List.range columns.length).map row.value) := by
  have passes (type : ScalarType) (value : Value) :
      (Conversion.select (ConversionRule.inOrder settings.rules) .untyped type).apply value =
        .ok value := by
    have noneOwn : (settings.rules.map CustomRule.toConversionRule).find?
        (fun rule => rule.applies .untyped type) = none := by
      rw [List.find?_eq_none]
      intro rule member
      obtain ⟨custom, isCustom, rfl⟩ := List.mem_map.mp member
      simp [unruled custom isCustom type]
    have standard : ConversionRule.standard.find? (fun rule => rule.applies .untyped type) =
        some ConversionRule.objectPassthrough := by
      cases type <;> rfl
    rw [Conversion.select, ConversionRule.inOrder, List.find?_append, noneOwn, standard,
      Conversion.apply]
    split
    · rename_i missing
      rw [Bool.and_eq_true] at missing
      cases missing.2
    · rfl
  have places := congrArg (List.map row.value) (Header.ofColumns_wellIndexed columns)
  rw [List.map_map, Header.ofColumns, List.length_map, List.length_zipIdx] at places
  have passed := Except.mapM_ok fun column (_ : column ∈ Header.ofColumns columns) =>
    passes column.type (row.value column.index)
  rw [Row.cellsAs, passed, ← places]
  rfl

theorem Row.cellsAs_leaves (converted : row.cellsAs settings leaf columns = .ok values)
    (keeps : settings.KeepsLeaves) (leaves : row.HoldsLeaves columns) :
    Value.leafCountItems values = columns.length := by
  obtain ⟨length, each⟩ := List.forall₂_iff_get.mp (Except.mapM_each converted)
  rw [← Row.cellsAs_length converted]
  refine Value.leafCountItems_leaves fun value member => ?_
  obtain ⟨index, inside, rfl⟩ := List.mem_iff_get.mp member
  have inColumns : index.val < (Header.ofColumns columns).length := by
    rw [length]
    exact index.isLt
  refine Conversion.select_leaf keeps (each index.val inColumns index.isLt) (leaves _ ?_)
  have placed := (Header.ofColumns_wellIndexed columns).inside (List.getElem_mem inColumns)
  rwa [Header.ofColumns_length] at placed

theorem groupedEntries_leafCount (converted : row.cellsAs settings leaf columns = .ok values)
    (keeps : settings.KeepsLeaves) (leaves : row.HoldsLeaves columns) :
    (Value.map (groupedEntries columns values)).leafCount = columns.length := by
  rw [← Row.cellsAs_leaves converted keeps leaves]
  have all := @Header.namesakes_perm (Header.ofColumns columns)
    ⟨Claims.none (Header.ofColumns columns), existingRegister + 1⟩ .root
  rw [Header.available_root] at all
  exact leafCount_groups
    (Header.namesakes_root fun _ member => Header.ofColumns_isFolded member) all
    (Row.cellsAs_values converted)

end Cells

/-! ## Visitors

Two of three columns have one name in different letter case. -/

namespace Visitors

def columns : List Column :=
  [Column.declare "Name" .string, Column.declare "regular" .bool, Column.declare "NAME" .string]

def row : Row :=
  ⟨columns, [.string "Ada", .bool true, .string "Lovelace"]⟩

def texts : List Value :=
  [.string "Ada", .string "true", .string "Lovelace"]

theorem texts_converted : row.cellsAs {} ⟨.scalar .string, false⟩ columns = .ok texts :=
  rfl

theorem row_leaves : row.HoldsLeaves columns := by
  decide

end Visitors

/-- Nothing of a row is lost by root targets that take all of it. Lists and arrays have one element
for each column, maps one entry for each name; untyped targets hold the cells as they are, unless a
rule of the caller's own takes them. -/
theorem Mapper.outcome_wholeRow {bindings : Bindings} {settings : Settings}
    {columns : List Column} {row : Row} {element : Target} {leaf : Leaf} {values : List Value}
    (isLeaf : element.leaf? = some leaf)
    (converted : row.cellsAs settings leaf columns = .ok values) :
    (values.length = columns.length ∧
      Mapper.outcome bindings settings columns (.list element) row = .ok (.list values) ∧
      Mapper.outcome bindings settings columns (.array element) row = .ok (.array values) ∧
      (settings.KeepsLeaves → row.HoldsLeaves columns →
        (Value.list values).leafCount = columns.length ∧
          (Value.array values).leafCount = columns.length)) ∧
    (∃ entries, HoldsRow columns values entries ∧
      Mapper.outcome bindings settings columns (.map element) row = .ok (.map entries) ∧
      (settings.KeepsLeaves → row.HoldsLeaves columns →
        (Value.map entries).leafCount = columns.length)) ∧
    (∀ cells, row.cellsAs settings .untyped columns = .ok cells →
      ∃ entries, HoldsRow columns cells entries ∧
        (∀ target ∈ [Target.any, .dynamic, .map .any],
          Mapper.outcome bindings settings columns target row = .ok (.map entries)) ∧
        (settings.KeepsLeaves → row.HoldsLeaves columns →
          (Value.map entries).leafCount = columns.length)) ∧
    ((∀ rule ∈ settings.rules, ∀ type, rule.applies .untyped type = false) →
      row.cellsAs settings .untyped columns =
        .ok ((List.range columns.length).map row.value)) := by
  refine ⟨⟨Row.cellsAs_length converted, Mapper.outcome_list converted isLeaf,
    Mapper.outcome_array converted isLeaf, fun keeps leaves => ?_⟩,
    ⟨_, groupedEntries_hold converted, Mapper.outcome_map converted isLeaf, ?_⟩,
    fun cells passed => ⟨_, groupedEntries_hold passed, fun target member => ?_, ?_⟩,
    Row.cellsAs_untyped⟩
  · have counted := Row.cellsAs_leaves converted keeps leaves
    exact ⟨counted, counted⟩
  · exact groupedEntries_leafCount converted
  · simp only [List.mem_cons, List.not_mem_nil, or_false] at member
    rcases member with rfl | rfl | rfl
    · exact Mapper.outcome_untyped passed rfl rfl
    · exact Mapper.outcome_untyped passed rfl rfl
    · exact Mapper.outcome_map passed rfl
  · exact groupedEntries_leafCount passed

theorem Visitors.row_held :
    Visitors.row.cellsAs {} ⟨.scalar .string, false⟩ Visitors.columns = .ok Visitors.texts ∧
    Mapper.outcome [] {} Visitors.columns (.list (.scalar .string)) Visitors.row =
      .ok (.list Visitors.texts) ∧
    (∃ entries, HoldsRow Visitors.columns Visitors.texts entries ∧
      Mapper.outcome [] {} Visitors.columns (.map (.scalar .string)) Visitors.row =
        .ok (.map entries) ∧
      (Value.map entries).leafCount = 3) ∧
    ∃ entries, HoldsRow Visitors.columns Visitors.row.cells entries ∧
      Mapper.outcome [] {} Visitors.columns .dynamic Visitors.row = .ok (.map entries) ∧
      (Value.map entries).leafCount = 3 := by
  have keeps : Settings.KeepsLeaves {} := by
    intro rule member
    cases member
  obtain ⟨⟨-, list, -⟩, ⟨entries, holds, mapped, counted⟩, untyped, passes⟩ :=
    @Mapper.outcome_wholeRow [] _ _ _ (.scalar .string) _ _ rfl Visitors.texts_converted
  have passed := passes fun rule member => by cases member
  obtain ⟨others, holdsCells, each, countedCells⟩ := untyped _ passed
  exact ⟨Visitors.texts_converted, list,
    ⟨entries, holds, mapped, counted keeps Visitors.row_leaves⟩,
    ⟨others, holdsCells, each .dynamic (by simp), countedCells keeps Visitors.row_leaves⟩⟩

end Unflatten
