import Unflatten.Proofs.MemberMaps.Spellings
import Unflatten.Proofs.Rows.WholeRow
import Unflatten.Proofs.Updates.Completeness

/-!
# What a map of leaves is filled with

A node for a map of leaves claims all columns that its scope still offers and puts one entry for
each of their groups into the map that it starts from. If the groups are called differently, no
entry takes the place of another one, so every claimed column has its leaf in the map.
-/

set_option autoImplicit false

namespace Unflatten

/-! ## Entries put in one after the other -/

namespace Entries

variable {α : Type} {entries : Entries α} {pairs : List (String × α)} {key : String} {value : α}

theorem Sorted.split (sorted : Sorted entries) (distinct : (names pairs).Nodup)
    (found : ∀ pair ∈ pairs, entries.get? pair.1 = some pair.2) :
    entries.Perm (pairs ++ entries.filter fun entry => entry.1 ∉ names pairs) := by
  have different : entries.Nodup := by
    refine sorted.imp fun {first later} before same => ?_
    rw [same] at before
    exact String.lt_irrefl _ before
  have named : (entries.filter fun entry => entry.1 ∈ names pairs).Perm pairs := by
    refine (List.perm_ext_iff_of_nodup (different.filter _) (List.Nodup.of_map _ distinct)).mpr ?_
    rintro ⟨key, value⟩
    rw [List.mem_filter, decide_eq_true_eq]
    constructor
    · rintro ⟨member, named⟩
      obtain ⟨⟨_, other⟩, isPair, rfl⟩ := List.mem_map.mp named
      have same := (get?_of_mem sorted member).symm.trans (found _ isPair)
      cases same
      exact isPair
    · intro isPair
      exact ⟨mem_of_get? (found _ isPair), List.mem_map_of_mem isPair⟩
  have parts := List.filter_append_perm (fun entry => decide (entry.1 ∈ names pairs)) entries
  refine parts.symm.trans (List.Perm.append named ?_)
  simp

end Entries

namespace Value

/-- The entries put into a map one after the other. -/
def insertKeys (target : Value) (pairs : List (String × Value)) : Value :=
  pairs.foldl (fun held pair => held.insertKey pair.1 pair.2) target

theorem insertKeys_map (entries : Entries Value) (pairs : List (String × Value)) :
    (map entries).insertKeys pairs = map (Entries.union entries pairs) := by
  induction pairs generalizing entries with
  | nil => rfl
  | cons first rest ih => exact ih (Entries.insert first.1 first.2 entries)

theorem map_of_insertKeys {target : Value} {pairs : List (String × Value)}
    {entries : Entries Value} (filled : target.insertKeys pairs = map entries) :
    ∃ start, target = map start ∧ entries = Entries.union start pairs := by
  induction pairs generalizing target with
  | nil => exact ⟨entries, filled, rfl⟩
  | cons first rest ih =>
      obtain ⟨between, isMap, rfl⟩ := ih filled
      cases target with
      | map start =>
          cases isMap
          exact ⟨start, rfl, rfl⟩
      | _ => cases isMap

theorem leafCountEntries_append (left right : Entries Value) :
    leafCountEntries (left ++ right) = leafCountEntries left + leafCountEntries right := by
  induction left with
  | nil => rw [List.nil_append, leafCountEntries, Nat.zero_add]
  | cons first rest ih =>
      rw [List.cons_append, leafCountEntries, leafCountEntries, ih, Nat.add_assoc]

end Value

/-! ## Counting claims -/

theorem Claims.count_claim {claims : Claims} {index : Nat} (inside : index < claims.length)
    (free : claims.isClaimed index = false) : (claims.claim index).count = claims.count + 1 := by
  rw [isClaimed, List.getElem?_eq_getElem inside, Option.getD_some] at free
  rw [count, claim, List.count_set inside, free]
  rfl

theorem Claiming.count {columns : List HeaderColumn} {pass next : Pass}
    (claiming : Claiming columns pass next) (unclaimed : Unclaimed pass columns) :
    next.claims.count = pass.claims.count + columns.length := by
  induction columns generalizing pass with
  | nil =>
      have same : next.claims = pass.claims := by
        refine List.ext_getElem claiming.length fun index inside inPass => ?_
        have marks := claiming.claims index
        rw [Claims.isClaimed, Claims.isClaimed, List.getElem?_eq_getElem inside,
          List.getElem?_eq_getElem inPass] at marks
        refine Bool.eq_iff_iff.mpr ?_
        simpa using marks
      rw [same, List.length_nil, Nat.add_zero]
  | cons column rest ih =>
      have split : Unclaimed pass ([column] ++ rest) := unclaimed
      have inside := unclaimed.inside column (by simp)
      let middle : Pass := { pass with claims := pass.claims.claim column.index }
      have first : Claiming [column] pass middle := by
        refine ⟨Claims.length_claim, fun index => ?_⟩
        rw [Claims.isClaimed_claim inside]
        simp [or_comm]
      have later : Claiming rest middle next := by
        refine ⟨claiming.length.trans first.length.symm, fun index => ?_⟩
        rw [claiming.claims, first.claims]
        simp [or_assoc]
      have counted := Claims.count_claim inside (unclaimed.free column (by simp))
      rw [ih later (split.right first), counted, List.length_cons, Nat.add_assoc, Nat.add_comm 1]

/-! ## Nodes -/

/-- A map of leaves, or a dictionary of leaves that takes its entries as a map does. -/
inductive Target.IsMapOf (leaf : Leaf) : Target → Option DictionaryType → Prop where
  | map {value : Target} (isLeaf : value.leaf? = some leaf) : IsMapOf leaf (.map value) none
  | dictionary {type : DictionaryType} (isLeaf : type.value.leaf? = some leaf)
      (inserts : type.insert = Value.insertKey) : IsMapOf leaf (.dictionary type) (some type)

theorem Target.IsMapOf.inserts {leaf : Leaf} {target : Target} {type : Option DictionaryType}
    (isMap : target.IsMapOf leaf type) : insertItem type = Value.insertKey := by
  cases isMap with
  | map => rfl
  | dictionary _ inserts =>
      funext held key item
      rw [insertItem, inserts]

theorem Target.IsMapOf.resolve {leaf : Leaf} {target : Target} {type : Option DictionaryType}
    (isMap : target.IsMapOf leaf type) (bindings : Bindings) :
    target.resolve bindings = target := by
  cases isMap with
  | map => rfl
  | dictionary => rfl

theorem Target.IsMapOf.notLeaf {leaf : Leaf} {target : Target} {type : Option DictionaryType}
    (isMap : target.IsMapOf leaf type) : target.leaf? = none := by
  cases isMap with
  | map => rfl
  | dictionary => rfl

namespace Planning

variable {env : Environment} {row : Row} {site : Site} {pass next : Pass} {program : Program}
variable {leaf : Leaf} {type : Option DictionaryType} {input : Value → Prop}

/-- The cell of the column as the leaf, or null if it cannot be read. -/
def valueOf (env : Environment) (row : Row) (leaf : Leaf) (column : HeaderColumn) : Value :=
  (cellOf env row column leaf).toOption.getD .null

/-- The cells of all columns could be read. -/
def Readable (env : Environment) (row : Row) (leaf : Leaf) (columns : List HeaderColumn) : Prop :=
  ∀ column ∈ columns, cellOf env row column leaf = .ok (valueOf env row leaf column)

/-- What the node fills: the value that is there, if it is accepted, or a new one. -/
def Started (type : Option DictionaryType) (present start : Value) : Prop :=
  ((dictionaryExpectation type).accepts present = true ∧ start = present) ∨
    newMap type = .ok start

/-- One entry for each group is put into the value. -/
def Filled (env : Environment) (row : Row) (leaf : Leaf) (groups : List Namesakes)
    (start value : Value) : Prop :=
  Readable env row leaf (groups.flatMap Namesakes.columns) ∧
    value = start.insertKeys (groups.map (entryOf (valueOf env row leaf)))

theorem readAll_cells {columns : List HeaderColumn} {items : List Program}
    (unclaimed : Unclaimed pass columns)
    (given : Gives (readAll env leaf columns) pass items next) :
    Produces row pass items
      (columns.map fun column cell => cellOf env row column leaf = .ok cell) next := by
  induction columns generalizing pass items with
  | nil =>
      obtain ⟨rfl, rfl⟩ := gives_pure.mp given
      exact Produces.nil rfl (Nat.le_refl _)
  | cons column rest ih =>
      obtain ⟨first, middle, others, isRead, readRest, rfl⟩ := readAll_cons given
      have split : Unclaimed pass ([column] ++ rest) := unclaimed
      obtain ⟨planned, claiming⟩ := read_planned split.left isRead
      exact Produces.cons planned (read_cell isRead) (ih (split.right claiming) readRest)

theorem readable_of_cells {columns : List HeaderColumn} {values : List Value}
    (cells : List.Forall₂ (fun output value => output value)
      (columns.map fun column cell => cellOf env row column leaf = .ok cell) values) :
    Readable env row leaf columns ∧ values = columns.map (valueOf env row leaf) := by
  induction columns generalizing values with
  | nil =>
      cases cells
      exact ⟨by simp [Readable], rfl⟩
  | cons column rest ih =>
      cases cells with
      | @cons _ value _ others isCell later =>
          obtain ⟨readable, rfl⟩ := ih later
          have same : value = valueOf env row leaf column := by
            rw [valueOf, isCell]
            rfl
          subst same
          refine ⟨fun other member => ?_, rfl⟩
          rcases List.mem_cons.mp member with rfl | isRest
          · exact isCell
          · exact readable other isRest

theorem Produces.length {items : List Program} {outputs : List (Value → Prop)}
    (produces : Produces row pass items outputs next) : items.length = outputs.length := by
  induction produces with
  | nil => rfl
  | cons _ _ _ ih => rw [List.length_cons, List.length_cons, ih]

theorem readGroup_cells {group : Namesakes} (unclaimed : Unclaimed pass group.columns)
    (given : Gives (readGroup env leaf group) pass program next) :
    Yields row none input
      (fun value => Readable env row leaf group.columns ∧
        value = Value.ofCells (group.columns.map (valueOf env row leaf))) program next := by
  unfold readGroup at given
  obtain ⟨items, middle, reads, given⟩ := gives_bind.mp given
  have produces : Produces row pass items _ middle := readAll_cells unclaimed reads
  have length := Produces.length produces
  rw [List.length_map] at length
  generalize group.columns = columns at produces length
  match items, columns, length, produces, given with
  | [item], [column], _, .cons _ yields (.nil _ registers), given =>
      obtain ⟨rfl, rfl⟩ := gives_pure.mp given
      refine Yields.ofNew ((yields.later registers).mono fun value isCell => ?_)
      have cells : List.Forall₂ (fun output value => output value)
          ([column].map fun column cell => cellOf env row column leaf = .ok cell) [value] :=
        .cons isCell .nil
      obtain ⟨readable, same⟩ := readable_of_cells cells
      exact ⟨readable, (List.cons.inj same).1⟩
  | [], [], _, produces, packs =>
      refine pack_yields produces packs fun values cells => ?_
      obtain ⟨readable, rfl⟩ := readable_of_cells cells
      exact ⟨readable, rfl⟩
  | _ :: _ :: _, _ :: _ :: _, _, produces, packs =>
      refine pack_yields produces packs fun values cells => ?_
      obtain ⟨readable, rfl⟩ := readable_of_cells cells
      exact ⟨readable, rfl⟩

theorem insertGroups_claiming {groups : List Namesakes} {target : Register} {steps : List Step}
    (unclaimed : Unclaimed pass (groups.flatMap Namesakes.columns))
    (given : Gives (insertGroups env leaf type target groups) pass steps next) :
    Claiming (groups.flatMap Namesakes.columns) pass next := by
  induction groups generalizing pass steps with
  | nil =>
      obtain ⟨-, rfl⟩ := gives_pure.mp given
      exact Claiming.none
  | cons group rest ih =>
      obtain ⟨item, middle, others, isRead, later, rfl⟩ := insertGroups_cons given
      rw [List.flatMap_cons] at unclaimed ⊢
      have claiming := (readGroup_planned unclaimed.left isRead).2
      exact claiming.append (ih (unclaimed.right claiming) later)

theorem insertGroups_fills {groups : List Namesakes} {target : Register} {steps : List Step}
    {start : Value} (inserts : insertItem type = Value.insertKey)
    (known : target < pass.nextRegister)
    (unclaimed : Unclaimed pass (groups.flatMap Namesakes.columns))
    (given : Gives (insertGroups env leaf type target groups) pass steps next) :
    Brings row target (fun held => held = start) (Filled env row leaf groups start) steps next := by
  induction groups generalizing pass steps start with
  | nil =>
      obtain ⟨rfl, rfl⟩ := gives_pure.mp given
      exact Brings.narrow Keeps.nil fun held same => ⟨by simp [Readable], same⟩
  | cons group rest ih =>
      obtain ⟨item, middle, others, isRead, later, rfl⟩ := insertGroups_cons given
      rw [List.flatMap_cons] at unclaimed
      obtain ⟨planned, claiming⟩ := readGroup_planned unclaimed.left isRead
      have stillKnown := Nat.lt_of_lt_of_le known planned.block.onward.registers
      have onward := (insertGroups_planned stillKnown (unclaimed.right claiming) later).onward
      let entry := entryOf (valueOf env row leaf) group
      have cells : Yields row none (fun _ => True) _ item middle :=
        readGroup_cells unclaimed.left isRead
      have adds : Brings row target (fun held => held = start)
          (fun held => Readable env row leaf group.columns ∧
            held = start.insertKey entry.1 entry.2)
          (item.steps ++ [.addEntry type target group.display item.result]) middle := by
        refine Brings.added (fun held => held.insertKey group.display) planned cells known
          (fun registers => by rw [runStep, inserts]) ?_
        rintro held value rfl ⟨readable, rfl⟩
        exact ⟨readable, rfl⟩
      have fills : Brings row target
          (fun held => Readable env row leaf group.columns ∧
            held = start.insertKey entry.1 entry.2)
          (Filled env row leaf (group :: rest) start) others next := by
        rintro registers finished fits ⟨readable, same⟩ ran
        obtain ⟨readableRest, filled⟩ :=
          ih stillKnown (unclaimed.right claiming) later registers finished fits same ran
        refine ⟨fun column member => ?_, filled⟩
        rw [List.flatMap_cons] at member
        rcases List.mem_append.mp member with isFirst | isRest
        · exact readable column isFirst
        · exact readableRest column isRest
      have both := Brings.append onward.registers adds fills
      rw [List.append_assoc] at both
      exact both

theorem standard_planEntries {levels : Nat} (isMap : site.target.IsMapOf leaf type)
    (given : Gives (standard env levels site) pass (some program) next) :
    ∃ below value, value.leaf? = some leaf ∧
      Gives (planEntries env (standard env below) site type value) pass (some program) next := by
  have noLeaf := isMap.notLeaf
  rcases standard_gives given with ⟨impossible, -⟩ |
    ⟨below, -, planner, member, planned, same, given⟩
  · cases impossible
  cases same
  simp only [standardPlanners, List.mem_cons, List.not_mem_nil, or_false] at member
  rcases member with rfl | rfl | rfl | rfl | rfl | rfl | rfl
  · rcases planUntypedMember_gives given with ⟨impossible, -⟩ | ⟨-, given⟩
    · cases impossible
    · rcases planUntyped_gives given with ⟨impossible, -⟩ | ⟨_, _, -, isLeaf, -⟩
      · cases impossible
      · cases noLeaf.symm.trans isLeaf
  · rcases planLeaf_gives given with ⟨impossible, -⟩ | ⟨_, _, -, isLeaf, -⟩
    · cases impossible
    · cases noLeaf.symm.trans isLeaf
  · rcases planTuple_gives given with ⟨impossible, -⟩ | ⟨_, _, _, _, -, isTuple, -⟩
    · cases impossible
    · rw [isTuple] at isMap
      cases isMap
  · rcases planArray_gives given with ⟨impossible, -⟩ | ⟨_, _, _, _, -, isArray, -⟩
    · cases impossible
    · rw [isArray] at isMap
      cases isMap
  · rcases planDictionary_gives given with ⟨impossible, -⟩ | ⟨value, found, given⟩ |
      ⟨found, isDictionary, given⟩
    · cases impossible
    · rw [found] at isMap
      cases isMap with
      | map isLeaf => exact ⟨below, value, isLeaf, given⟩
    · rw [isDictionary] at isMap
      cases isMap with
      | dictionary isLeaf => exact ⟨below, _, isLeaf, given⟩
  · rcases planSequence_gives given with ⟨impossible, -⟩ | ⟨_, isList, -⟩ | ⟨_, isSequence, -⟩
    · cases impossible
    · rw [isList] at isMap
      cases isMap
    · rw [isSequence] at isMap
      cases isMap
  · rcases planObject_gives given with ⟨impossible, -⟩ | ⟨_, _, -, isObject, -⟩
    · cases impossible
    · rw [isObject] at isMap
      cases isMap

section Sites

variable {recurse : Planner} (indexed : env.header.WellIndexed)
variable (sized : pass.claims.length = env.header.length)
variable (known : ∀ register, site.existing = some register → register < pass.nextRegister)
include indexed sized known

theorem planEntries_fills {value : Target} (isLeaf : value.leaf? = some leaf)
    (inserts : insertItem type = Value.insertKey)
    (given : Gives (planEntries env recurse site type value) pass (some program) next)
    (present : Value) :
    next.claims.count =
        pass.claims.count + (env.header.available pass.claims site.scope).length ∧
      Yields row site.existing (fun held => held = present)
        (fun value => ∃ start, Started type present start ∧
          Filled env row leaf (env.header.namesakes pass.claims site.scope) start value)
        program next := by
  rcases planEntries_gives given with ⟨impossible, -⟩ | ⟨start, middle, steps, started, fills,
    same⟩
  · cases impossible
  cases same
  have created : Planned none pass
      (Program.single (.startMap type pass.nextRegister) pass.nextRegister) pass.advanced :=
    Planned.write (by rw [Step.paths]) (by rw [Step.columns]) (by rw [Step.registers])
  have begins := reuseOrCreate_planned known created started
  have unchanged : middle.claims = pass.claims := by
    rcases reuseOrCreate_gives started with ⟨-, -, rfl⟩ | ⟨_, -, rfl, -⟩
    · rfl
    · rfl
  have starts : Yields row site.existing (fun held => held = present) (Started type present) start
      middle := by
    have creates : Yields row none (fun held => held = present) (Started type present)
        (Program.single (.startMap type pass.nextRegister) pass.nextRegister) pass.advanced :=
      Yields.outcome (newMap type) (fun registers => by rw [runStep]) rfl
        fun held made => Or.inr made
    refine reuseOrCreate_yields creates (fun held accepts same => ?_) started
    subst same
    exact Or.inl ⟨accepts, rfl⟩
  rcases planInserts_gives fills with ⟨other, isOther, fills⟩ | ⟨noLeaf, -⟩
  · cases isLeaf.symm.trans isOther
    rw [unchanged] at fills
    have same : ((env.header.namesakes pass.claims site.scope).flatMap Namesakes.columns).Perm
        (env.header.available pass.claims site.scope) := Header.namesakes_perm
    have unclaimed : Unclaimed middle
        ((env.header.namesakes pass.claims site.scope).flatMap Namesakes.columns) :=
      ((Header.available_unclaimed site.scope indexed sized).congr unchanged).perm same
    have onward := (insertGroups_planned begins.below unclaimed fills).onward
    refine ⟨?_, Yields.brought onward.registers starts ?_⟩
    · rw [(insertGroups_claiming unclaimed fills).count unclaimed, unchanged, same.length_eq]
    · intro registers finished fits begun ran
      exact ⟨_, begun, insertGroups_fills inserts begins.below unclaimed fills registers finished
        fits rfl ran⟩
  · rw [isLeaf] at noLeaf
    cases noLeaf

theorem standard_fills {levels : Nat} (isMap : site.target.IsMapOf leaf type)
    (given : Gives (standard env levels site) pass (some program) next) (present : Value) :
    next.claims.count =
        pass.claims.count + (env.header.available pass.claims site.scope).length ∧
      Yields row site.existing (fun held => held = present)
        (fun value => ∃ start, Started type present start ∧
          Filled env row leaf (env.header.namesakes pass.claims site.scope) start value)
        program next := by
  obtain ⟨below, value, isLeaf, entries⟩ := standard_planEntries isMap given
  exact planEntries_fills indexed sized known isLeaf isMap.inserts entries present

end Sites

/-! ## Leaves -/

section Counts

variable {groups : List Namesakes} {start value : Value}

theorem names_groups (value : HeaderColumn → Value) (groups : List Namesakes) :
    Entries.names (groups.map (entryOf value)) = groups.map Namesakes.display := by
  rw [Entries.names, List.map_map]
  rfl

theorem valueOf_leaf {columns : List HeaderColumn} (keeps : env.settings.KeepsLeaves)
    (leaves : ∀ column ∈ columns, (row.value column.index).isLeaf = true)
    (readable : Readable env row leaf columns) {column : HeaderColumn}
    (member : column ∈ columns) : (valueOf env row leaf column).isLeaf = true := by
  have isCell := readable column member
  rw [cellOf, readColumn] at isCell
  split at isCell
  · rename_i converted
    cases isCell
    exact Conversion.select_leaf keeps converted (leaves column member)
  · cases isCell

variable (keeps : env.settings.KeepsLeaves)
variable (leaves : ∀ column ∈ groups.flatMap Namesakes.columns,
  (row.value column.index).isLeaf = true)
variable (distinct : (groups.map Namesakes.display).Nodup)
variable (filled : Filled env row leaf groups start value)
include keeps leaves filled

theorem Filled.leafCount : Value.leafCountEntries (groups.map (entryOf (valueOf env row leaf))) =
    (groups.flatMap Namesakes.columns).length := by
  rw [leafCountEntries_groups, Value.leafCountItems_leaves, List.length_map]
  intro value member
  obtain ⟨column, isColumn, rfl⟩ := List.mem_map.mp member
  exact valueOf_leaf keeps leaves filled.1 isColumn

include distinct

theorem Filled.counts {entries : Entries Value} (isMap : value = .map entries)
    (sorted : entries.Sorted) :
    Value.leafCountEntries entries = (groups.flatMap Namesakes.columns).length +
      Value.leafCountEntries
        (entries.filter fun entry => entry.1 ∉ groups.map Namesakes.display) := by
  rw [← names_groups (valueOf env row leaf)] at distinct
  obtain ⟨before, rfl, rfl⟩ := Value.map_of_insertKeys (filled.2.symm.trans isMap)
  have parts := sorted.split distinct fun pair member =>
    Entries.get?_union_of_mem distinct member
  rw [Value.leafCountEntries_perm parts, Value.leafCountEntries_append,
    Filled.leafCount keeps leaves filled, names_groups]

theorem Filled.counts_new (empty : start = .map []) : ∃ entries, value = .map entries ∧
    Value.leafCountEntries entries = (groups.flatMap Namesakes.columns).length := by
  rw [← names_groups (valueOf env row leaf)] at distinct
  refine ⟨Entries.ofList (groups.map (entryOf (valueOf env row leaf))), ?_, ?_⟩
  · rw [filled.2, empty, Value.insertKeys_map]
    rfl
  · rw [Value.leafCountEntries_perm (Entries.ofList_perm distinct),
      Filled.leafCount keeps leaves filled]

end Counts

end Planning

end Unflatten
