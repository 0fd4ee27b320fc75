import Mathlib.Data.List.Induction
import Mathlib.Data.List.Nodup
import Unflatten.Proofs.Construction.Columns
import Unflatten.Proofs.LetterCase.Lengths
import Unflatten.Proofs.Planning.Reading

/-!
# Groups of one name

Each column that a scope offers joins the group of its local name, or begins that group at the end.
So the groups have different names, each holds all columns of its name in the order of the header,
and their first columns stand in that order as well. The groups therefore divide the offered columns
up among themselves.

At the root a column is spelt as in the header, whatever the folding does to the lengths of its
characters, and its group is the one of its folded name.
-/

set_option autoImplicit false

namespace Unflatten

/-! ## One more column -/

namespace Namesakes

variable {scope : Scope} {column : HeaderColumn} {groups : List Namesakes}

/-- The group with one more column, if it is the one of the name. -/
def joined (name : String) (column : HeaderColumn) (group : Namesakes) : Namesakes :=
  if group.localName = name then { group with columns := group.columns ++ [column] } else group

@[simp] theorem joined_localName (name : String) (column : HeaderColumn) (group : Namesakes) :
    (group.joined name column).localName = group.localName := by
  unfold joined
  split
  · rfl
  · rfl

@[simp] theorem joined_display (name : String) (column : HeaderColumn) (group : Namesakes) :
    (group.joined name column).display = group.display := by
  unfold joined
  split
  · rfl
  · rfl

theorem joined_head? (name : String) (column : HeaderColumn) {group : Namesakes}
    (some : group.columns ≠ []) :
    (group.joined name column).columns.head? = group.columns.head? := by
  unfold joined
  split
  · obtain ⟨first, rest, columns⟩ := List.exists_cons_of_ne_nil some
    rw [columns]
    rfl
  · rfl

theorem map_joined_localName (name : String) (column : HeaderColumn) (groups : List Namesakes) :
    (groups.map (joined name column)).map localName = groups.map localName := by
  rw [List.map_map]
  exact List.map_congr_left fun group _ => joined_localName _ _ group

theorem insert_known (distinct : (groups.map localName).Nodup)
    (known : scope.nameWithin column ∈ groups.map localName) :
    Namesakes.insert scope column groups = groups.map (joined (scope.nameWithin column) column) := by
  induction groups with
  | nil => cases known
  | cons first rest ih =>
      rw [List.map_cons, List.nodup_cons] at distinct
      rw [Namesakes.insert, List.map_cons, joined]
      by_cases here : first.localName = scope.nameWithin column
      · have kept : ∀ group ∈ rest, joined (scope.nameWithin column) column group = group := by
          intro group member
          refine if_neg fun same => distinct.1 ?_
          exact List.mem_map.mpr ⟨group, member, same.trans here.symm⟩
        rw [if_pos here, if_pos here, List.map_congr_left kept, List.map_id']
      · rw [if_neg here, if_neg here, ih distinct.2]
        rw [List.map_cons] at known
        exact (List.mem_cons.mp known).resolve_left (Ne.symm here)

theorem insert_new (new : scope.nameWithin column ∉ groups.map localName) :
    Namesakes.insert scope column groups =
      groups ++ [⟨scope.nameWithin column, scope.spellingWithin column, [column]⟩] := by
  induction groups with
  | nil => rfl
  | cons first rest ih =>
      rw [List.map_cons, List.mem_cons, not_or] at new
      rw [Namesakes.insert, if_neg (Ne.symm new.1), ih new.2, List.cons_append]

end Namesakes

/-! ## All columns -/

/-- The columns in groups by their names in the scope, each group spelt like its first column. -/
structure Grouped (scope : Scope) (columns : List HeaderColumn) (groups : List Namesakes) :
    Prop where
  distinct : (groups.map Namesakes.localName).Nodup
  covered : ∀ column ∈ columns, scope.nameWithin column ∈ groups.map Namesakes.localName
  spelt : ∀ group ∈ groups, ∃ first,
    columns.find? (fun column => scope.nameWithin column == group.localName) = some first ∧
      group.display = scope.spellingWithin first
  held : ∀ group ∈ groups,
    group.columns = columns.filter fun column => scope.nameWithin column == group.localName
  ordered : (groups.map fun group => group.columns.head?).Sublist (columns.map some)

namespace Grouped

variable {scope : Scope} {columns : List HeaderColumn} {column : HeaderColumn}
variable {groups : List Namesakes} {group : Namesakes}

theorem nil : Grouped scope [] [] := by
  refine ⟨?_, ?_, ?_, ?_, ?_⟩ <;> simp

theorem first (grouped : Grouped scope columns groups) (member : group ∈ groups) : ∃ first,
    group.columns.head? = some first ∧ group.display = scope.spellingWithin first := by
  obtain ⟨first, found, display⟩ := grouped.spelt group member
  exact ⟨first, by rw [grouped.held group member, List.head?_filter, found], display⟩

theorem ne_nil (grouped : Grouped scope columns groups) (member : group ∈ groups) :
    group.columns ≠ [] := by
  obtain ⟨first, isFirst, -⟩ := grouped.first member
  intro none
  rw [none] at isFirst
  cases isFirst

theorem joined (grouped : Grouped scope columns groups)
    (known : scope.nameWithin column ∈ groups.map Namesakes.localName) :
    Grouped scope (columns ++ [column])
      (groups.map (Namesakes.joined (scope.nameWithin column) column)) := by
  have names := Namesakes.map_joined_localName (scope.nameWithin column) column groups
  refine ⟨by rw [names]; exact grouped.distinct, fun other member => ?_, fun group member => ?_,
    fun group member => ?_, ?_⟩
  · rw [names]
    rcases List.mem_append.mp member with member | member
    · exact grouped.covered other member
    · rw [List.mem_singleton.mp member]
      exact known
  · obtain ⟨old, isOld, rfl⟩ := List.mem_map.mp member
    obtain ⟨first, found, display⟩ := grouped.spelt old isOld
    refine ⟨first, ?_, by rw [Namesakes.joined_display, display]⟩
    rw [List.find?_append, Namesakes.joined_localName, found]
    rfl
  · obtain ⟨old, isOld, rfl⟩ := List.mem_map.mp member
    rw [List.filter_append, Namesakes.joined_localName, ← grouped.held old isOld, Namesakes.joined]
    split
    · rename_i same
      simp [same]
    · rename_i differs
      simp [Ne.symm differs]
  · have heads : ∀ group ∈ groups,
        (group.joined (scope.nameWithin column) column).columns.head? = group.columns.head? :=
      fun group member => Namesakes.joined_head? _ _ (grouped.ne_nil member)
    rw [List.map_map, Function.comp_def, List.map_congr_left heads, List.map_append]
    exact grouped.ordered.trans (List.sublist_append_left _ _)

theorem begun (grouped : Grouped scope columns groups)
    (new : scope.nameWithin column ∉ groups.map Namesakes.localName) :
    Grouped scope (columns ++ [column])
      (groups ++ [⟨scope.nameWithin column, scope.spellingWithin column, [column]⟩]) := by
  have missing : ∀ other ∈ columns, scope.nameWithin other ≠ scope.nameWithin column := by
    intro other member same
    exact new (same ▸ grouped.covered other member)
  refine ⟨?_, fun other member => ?_, fun group member => ?_, fun group member => ?_, ?_⟩
  · rw [List.map_append, List.map_singleton, ← List.concat_eq_append]
    exact grouped.distinct.concat new
  · rcases List.mem_append.mp member with member | member
    · simp [grouped.covered other member]
    · simp [List.mem_singleton.mp member]
  · rcases List.mem_append.mp member with member | member
    · obtain ⟨first, found, display⟩ := grouped.spelt group member
      refine ⟨first, ?_, display⟩
      rw [List.find?_append, found]
      rfl
    · rw [List.mem_singleton.mp member]
      refine ⟨column, ?_, rfl⟩
      rw [List.find?_append, List.find?_eq_none.mpr (by simpa using missing)]
      simp
  · rw [List.filter_append]
    rcases List.mem_append.mp member with member | member
    · have differs : scope.nameWithin column ≠ group.localName := by
        intro same
        exact new (same ▸ List.mem_map_of_mem member)
      simp [grouped.held group member, differs]
    · rw [List.mem_singleton.mp member, List.filter_eq_nil_iff.mpr (by simpa using missing)]
      simp
  · rw [List.map_append, List.map_append]
    exact grouped.ordered.append (List.Sublist.refl _)

theorem insert (grouped : Grouped scope columns groups) (column : HeaderColumn) :
    Grouped scope (columns ++ [column]) (Namesakes.insert scope column groups) := by
  by_cases known : scope.nameWithin column ∈ groups.map Namesakes.localName
  · rw [Namesakes.insert_known grouped.distinct known]
    exact grouped.joined known
  · rw [Namesakes.insert_new known]
    exact grouped.begun known

end Grouped

theorem Header.namesakes_grouped (header : Header) (claims : Claims) (scope : Scope) :
    Grouped scope (header.available claims scope) (header.namesakes claims scope) := by
  rw [Header.namesakes]
  generalize header.available claims scope = columns
  induction columns using List.reverseRecOn with
  | nil => exact Grouped.nil
  | append_singleton columns column ih =>
      rw [List.foldl_concat]
      exact ih.insert column

/-! ## Places -/

/-- The offered columns divided up by their names in the scope, as seen from their places in the
header. -/
structure Header.Divided (header : Header) (claims : Claims) (scope : Scope)
    (groups : List Namesakes) : Prop where
  filled : ∀ group ∈ groups, group.indices ≠ []
  ascending : ∀ group ∈ groups, group.indices.Pairwise (· < ·)
  disjoint : groups.Pairwise fun one other => one.indices.Disjoint other.indices
  exhausted : ∀ index, (∃ group ∈ groups, index ∈ group.indices) ↔
    index ∈ header.places claims scope
  distinct : groups.Pairwise fun one other => one.localName ≠ other.localName
  named : ∀ group ∈ groups, ∀ column ∈ header.available claims scope,
    column.index ∈ group.indices ↔ scope.nameWithin column = group.localName
  together : ∀ one ∈ header.available claims scope, ∀ other ∈ header.available claims scope,
    (∃ group ∈ groups, one.index ∈ group.indices ∧ other.index ∈ group.indices) ↔
      scope.nameWithin one = scope.nameWithin other
  ordered : groups.Pairwise fun one other =>
    ∀ first ∈ one.indices.head?, ∀ later ∈ other.indices.head?, first < later

namespace Grouped

variable {scope : Scope} {columns : List HeaderColumn} {column : HeaderColumn}
variable {groups : List Namesakes} {group : Namesakes} {index : Nat}
variable (grouped : Grouped scope columns groups)
include grouped

theorem exists_group (member : column ∈ columns) :
    ∃ group ∈ groups, scope.nameWithin column = group.localName := by
  obtain ⟨group, isGroup, named⟩ := List.mem_map.mp (grouped.covered column member)
  exact ⟨group, isGroup, named.symm⟩

theorem mem_columns (isGroup : group ∈ groups) :
    column ∈ group.columns ↔ column ∈ columns ∧ scope.nameWithin column = group.localName := by
  rw [grouped.held group isGroup, List.mem_filter, beq_iff_eq]

theorem mem_indices (isGroup : group ∈ groups) : index ∈ group.indices ↔
    ∃ column ∈ columns, scope.nameWithin column = group.localName ∧ column.index = index := by
  simp only [Namesakes.indices, List.mem_map, grouped.mem_columns isGroup, and_assoc]

variable (indexed : columns.Pairwise fun one other => one.index < other.index)
include indexed

theorem index_mem (isGroup : group ∈ groups) (member : column ∈ columns) :
    column.index ∈ group.indices ↔ scope.nameWithin column = group.localName := by
  have distinct : (columns.map HeaderColumn.index).Nodup :=
    List.pairwise_map.mpr (indexed.imp Nat.ne_of_lt)
  rw [grouped.mem_indices isGroup]
  constructor
  · rintro ⟨other, isOther, named, same⟩
    rwa [← List.inj_on_of_nodup_map distinct isOther member same]
  · intro named
    exact ⟨column, member, named, rfl⟩

theorem indices_ascending (isGroup : group ∈ groups) : group.indices.Pairwise (· < ·) := by
  rw [Namesakes.indices, List.pairwise_map, grouped.held group isGroup]
  exact indexed.filter _

theorem firsts_ascending : groups.Pairwise fun one other =>
    ∀ first ∈ one.indices.head?, ∀ later ∈ other.indices.head?, first < later := by
  have heads : (columns.map some).Pairwise fun one other =>
      ∀ first ∈ one.map HeaderColumn.index, ∀ later ∈ other.map HeaderColumn.index,
        first < later := by
    rw [List.pairwise_map]
    refine indexed.imp fun {one other} before => ?_
    simpa using before
  refine (List.pairwise_map.mp (heads.sublist grouped.ordered)).imp fun {one other} before => ?_
  rwa [Namesakes.indices, Namesakes.indices, List.head?_map, List.head?_map]

end Grouped

theorem Header.WellIndexed.ascending {header : Header} (indexed : header.WellIndexed) :
    header.Pairwise fun one other => one.index < other.index := by
  have places : (header.map HeaderColumn.index).Pairwise (· < ·) := by
    rw [indexed]
    exact List.pairwise_lt_range
  exact List.pairwise_map.mp places

/-- Whatever has been claimed and whatever the scope, its groups divide up the columns that it
offers. -/
theorem Header.namesakes_divide (columns : List Column) (claims : Claims) (scope : Scope) :
    (ofColumns columns).Divided claims scope ((ofColumns columns).namesakes claims scope) := by
  have grouped := (ofColumns columns).namesakes_grouped claims scope
  have indexed : ((ofColumns columns).available claims scope).Pairwise
      fun one other => one.index < other.index :=
    (ofColumns_wellIndexed columns).ascending.filter _
  have distinct := List.pairwise_map.mp grouped.distinct
  refine ⟨fun group isGroup none => ?_, fun group isGroup => grouped.indices_ascending indexed isGroup,
    ?_, fun index => ⟨?_, fun isPlace => ?_⟩, distinct,
    fun group isGroup column member => grouped.index_mem indexed isGroup member,
    fun one isOne other isOther => ⟨?_, fun same => ?_⟩, grouped.firsts_ascending indexed⟩
  · exact grouped.ne_nil isGroup (List.map_eq_nil_iff.mp none)
  · refine distinct.imp_of_mem fun {first second} isFirst isSecond differ index inFirst inSecond => ?_
    obtain ⟨column, member, named, rfl⟩ := (grouped.mem_indices isFirst).mp inFirst
    exact differ (named.symm.trans ((grouped.index_mem indexed isSecond member).mp inSecond))
  · rintro ⟨group, isGroup, inside⟩
    obtain ⟨column, member, -, rfl⟩ := (grouped.mem_indices isGroup).mp inside
    exact List.mem_map_of_mem member
  · obtain ⟨column, member, rfl⟩ := List.mem_map.mp isPlace
    obtain ⟨group, isGroup, named⟩ := grouped.exists_group member
    exact ⟨group, isGroup, (grouped.index_mem indexed isGroup member).mpr named⟩
  · rintro ⟨group, isGroup, oneInside, otherInside⟩
    rw [(grouped.index_mem indexed isGroup isOne).mp oneInside,
      (grouped.index_mem indexed isGroup isOther).mp otherInside]
  · obtain ⟨group, isGroup, named⟩ := grouped.exists_group isOne
    exact ⟨group, isGroup, (grouped.index_mem indexed isGroup isOne).mpr named,
      (grouped.index_mem indexed isGroup isOther).mpr (same.symm.trans named)⟩

/-- Columns whose names differ in case only make one group, which stands where the first of them
does. -/
example : ((Header.ofColumns [Column.declare "A" .string, Column.declare "B" .string,
    Column.declare "a" .string]).namesakes [] .root).map Namesakes.indices = [[0, 2], [1]] := by
  decide +kernel

/-! ## Names at the root -/

namespace HeaderColumn

/-- The column bears the fold of its own name. -/
def IsFolded (column : HeaderColumn) : Prop :=
  column.folded = foldName column.name

theorem IsFolded.byteLength {column : HeaderColumn} (isFolded : column.IsFolded) :
    Text.byteLength column.folded.toList = Text.loweredLength column.name.toList := by
  rw [isFolded, byteLength_foldName]

theorem IsFolded.nameSlice_from {column : HeaderColumn} (isFolded : column.IsFolded)
    (start : Nat) :
    column.nameSlice start (Text.byteLength column.folded.toList) =
      String.ofList (column.name.toList.drop (countFolded start column.name.toList)) := by
  rw [HeaderColumn.nameSlice, isFolded.byteLength, countFolded_all, List.take_length]

theorem IsFolded.nameSlice {column : HeaderColumn} (isFolded : column.IsFolded) :
    column.nameSlice 0 (Text.byteLength column.folded.toList) = column.name := by
  rw [isFolded.nameSlice_from, countFolded_zero, List.drop_zero, String.ofList_toList]

end HeaderColumn

theorem Scope.root_spellingWithin {column : HeaderColumn} (isFolded : column.IsFolded) :
    root.spellingWithin column = column.name := by
  have slice := isFolded.nameSlice
  simpa [root, spellingWithin, Text.byteLength] using slice

theorem Header.ofColumns_isFolded {columns : List Column} {column : HeaderColumn}
    (member : column ∈ ofColumns columns) : column.IsFolded := by
  obtain ⟨⟨declared, index⟩, -, rfl⟩ := List.mem_map.mp member
  rfl

theorem Header.available_root (header : Header) :
    header.available (Claims.none header) .root = header := by
  rw [Header.available, List.filter_eq_self]
  intro column _
  rw [Claims.isClaimed_none, Scope.root_contains]
  rfl

/-- The groups of columns by their folded names. -/
structure GroupsOf (columns : List HeaderColumn) (groups : List Namesakes) : Prop where
  distinct : (groups.map Namesakes.localName).Nodup
  covered : ∀ column ∈ columns, column.folded ∈ groups.map Namesakes.localName
  spelt : ∀ group ∈ groups, ∃ first,
    columns.find? (fun column => column.folded == group.localName) = some first ∧
      group.display = first.name
  held : ∀ group ∈ groups,
    group.columns = columns.filter fun column => column.folded == group.localName

theorem Header.namesakes_root {header : Header} (folded : ∀ column ∈ header, column.IsFolded) :
    GroupsOf header (header.namesakes (Claims.none header) .root) := by
  have grouped := header.namesakes_grouped (Claims.none header) .root
  rw [Header.available_root] at grouped
  obtain ⟨distinct, covered, spelt, held, -⟩ := grouped
  simp only [Scope.root_nameWithin] at covered spelt held
  refine ⟨distinct, covered, fun group member => ?_, held⟩
  obtain ⟨first, found, display⟩ := spelt group member
  have isFolded := folded first (List.mem_of_find?_eq_some found)
  exact ⟨first, found, display.trans (Scope.root_spellingWithin isFolded)⟩

end Unflatten
