import Unflatten.Proofs.Planning.Containers
import Unflatten.Proofs.Planning.Planned

/-!
# Reading columns

The columns that a scope offers are distinct and unclaimed, and grouping them by name neither loses
nor repeats one. Whoever reads some of them claims exactly these.
-/

set_option autoImplicit false

namespace Unflatten

namespace Header

/-- Each column stands at its own index. -/
def WellIndexed (header : Header) : Prop :=
  header.map HeaderColumn.index = List.range header.length

theorem ofColumns_wellIndexed (columns : List Column) : (ofColumns columns).WellIndexed := by
  unfold WellIndexed ofColumns
  apply List.ext_getElem
  · simp
  · intro index inside _
    simp

variable {header : Header}

theorem WellIndexed.nodup (indexed : header.WellIndexed) :
    (header.map HeaderColumn.index).Nodup := by
  rw [indexed]
  exact List.nodup_range

theorem WellIndexed.inside (indexed : header.WellIndexed) {column : HeaderColumn}
    (member : column ∈ header) : column.index < header.length := by
  rw [← List.mem_range, ← indexed]
  exact List.mem_map_of_mem member

end Header

/-- Columns that a pass may still claim, one after the other. -/
structure Unclaimed (pass : Pass) (columns : List HeaderColumn) : Prop where
  distinct : (columns.map HeaderColumn.index).Nodup
  free : ∀ column ∈ columns, pass.claims.isClaimed column.index = false
  inside : ∀ column ∈ columns, column.index < pass.claims.length

/-- The later pass has claimed these columns and no others. -/
structure Claiming (columns : List HeaderColumn) (pass next : Pass) : Prop where
  length : next.claims.length = pass.claims.length
  claims : ∀ index, next.claims.isClaimed index = true ↔
    pass.claims.isClaimed index = true ∨ index ∈ columns.map HeaderColumn.index

namespace Claiming

variable {first second : List HeaderColumn} {pass between next : Pass}

theorem none : Claiming [] pass pass :=
  ⟨rfl, by simp⟩

theorem append (left : Claiming first pass between) (right : Claiming second between next) :
    Claiming (first ++ second) pass next := by
  refine ⟨right.length.trans left.length, fun index => ?_⟩
  rw [right.claims, left.claims, List.map_append, List.mem_append, or_assoc]

theorem advanced (claiming : Claiming first pass next) : Claiming first pass next.advanced :=
  ⟨claiming.length, claiming.claims⟩

end Claiming

namespace Unclaimed

variable {pass next : Pass} {first second : List HeaderColumn}

theorem left (unclaimed : Unclaimed pass (first ++ second)) : Unclaimed pass first := by
  obtain ⟨distinct, free, inside⟩ := unclaimed
  rw [List.map_append, List.nodup_append] at distinct
  exact ⟨distinct.1, fun column member => free column (by simp [member]),
    fun column member => inside column (by simp [member])⟩

theorem right (unclaimed : Unclaimed pass (first ++ second)) (claiming : Claiming first pass next) :
    Unclaimed next second := by
  obtain ⟨distinct, free, inside⟩ := unclaimed
  rw [List.map_append, List.nodup_append] at distinct
  obtain ⟨-, distinct, apart⟩ := distinct
  refine ⟨distinct, fun column member => ?_, fun column member => ?_⟩
  · cases claimed : next.claims.isClaimed column.index with
    | false => rfl
    | true =>
        rcases (claiming.claims column.index).mp claimed with earlier | now
        · rw [free column (by simp [member])] at earlier
          cases earlier
        · exact absurd rfl (apart _ now _ (List.mem_map_of_mem member))
  · rw [claiming.length]
    exact inside column (by simp [member])

theorem perm (unclaimed : Unclaimed pass first) (same : second.Perm first) :
    Unclaimed pass second := by
  obtain ⟨distinct, free, inside⟩ := unclaimed
  refine ⟨?_, fun column member => free column (same.mem_iff.mp member),
    fun column member => inside column (same.mem_iff.mp member)⟩
  exact (same.map HeaderColumn.index).nodup_iff.mpr distinct

theorem congr (unclaimed : Unclaimed pass first) (same : next.claims = pass.claims) :
    Unclaimed next first := by
  obtain ⟨distinct, free, inside⟩ := unclaimed
  rw [← same] at free inside
  exact ⟨distinct, free, inside⟩

theorem advanced (unclaimed : Unclaimed pass first) : Unclaimed pass.advanced first :=
  unclaimed.congr rfl

end Unclaimed

section Scopes

variable {header : Header} {pass : Pass} {scope : Scope}

theorem Header.available_unclaimed (scope : Scope) (indexed : header.WellIndexed)
    (sized : pass.claims.length = header.length) :
    Unclaimed pass (header.available pass.claims scope) := by
  unfold Header.available
  refine ⟨?_, fun column member => ?_, fun column member => ?_⟩
  · exact indexed.nodup.sublist (List.filter_sublist.map HeaderColumn.index)
  · rw [List.mem_filter, Bool.and_eq_true] at member
    simpa using member.2.1
  · rw [sized]
    exact indexed.inside (List.mem_filter.mp member).1

theorem Unclaimed.single {columns : List HeaderColumn} {column : HeaderColumn}
    (unclaimed : Unclaimed pass columns) (member : column ∈ columns) : Unclaimed pass [column] := by
  refine ⟨by simp, fun other same => ?_, fun other same => ?_⟩
  · rw [List.mem_singleton.mp same]
    exact unclaimed.free column member
  · rw [List.mem_singleton.mp same]
    exact unclaimed.inside column member

theorem Header.find?_unclaimed {localName : String} {column : HeaderColumn}
    (indexed : header.WellIndexed) (sized : pass.claims.length = header.length)
    (found : header.find? pass.claims scope localName = some column) : Unclaimed pass [column] :=
  (Header.available_unclaimed scope indexed sized).single (List.mem_of_find?_eq_some found)

theorem Namesakes.insert_perm (column : HeaderColumn) (groups : List Namesakes) :
    ((Namesakes.insert scope column groups).flatMap Namesakes.columns).Perm
      (column :: groups.flatMap Namesakes.columns) := by
  induction groups with
  | nil => simp [Namesakes.insert]
  | cons group rest ih =>
      rw [Namesakes.insert]
      split
      · simp only [List.flatMap_cons, List.append_assoc, List.cons_append, List.nil_append]
        exact List.perm_middle
      · simp only [List.flatMap_cons]
        exact (ih.append_left group.columns).trans List.perm_middle

theorem Header.namesakes_perm :
    ((header.namesakes pass.claims scope).flatMap Namesakes.columns).Perm
      (header.available pass.claims scope) := by
  unfold Header.namesakes
  have grouped (columns : List HeaderColumn) (groups : List Namesakes) :
      ((columns.foldl (fun groups column => Namesakes.insert scope column groups) groups).flatMap
        Namesakes.columns).Perm (groups.flatMap Namesakes.columns ++ columns) := by
    induction columns generalizing groups with
    | nil => simp
    | cons column rest ih =>
        rw [List.foldl_cons]
        refine (ih _).trans ?_
        refine ((Namesakes.insert_perm column groups).append_right rest).trans ?_
        rw [List.cons_append]
        exact List.perm_middle.symm
  simpa using grouped (header.available pass.claims scope) []

end Scopes

/-! ## Readers -/

namespace Planning

variable {env : Environment} {pass next : Pass} {leaf : Leaf} {program : Program}

theorem read_planned {column : HeaderColumn} (unclaimed : Unclaimed pass [column])
    (given : Gives (read env column leaf) pass program next) :
    Planned none pass program next ∧ Claiming [column] pass next := by
  obtain ⟨rfl, rfl⟩ := gives_read.mp given
  have free := unclaimed.free column (by simp)
  have inside := unclaimed.inside column (by simp)
  refine ⟨Planned.read free inside, Claims.length_claim, fun index => ?_⟩
  rw [Claims.isClaimed_claim inside]
  simp [or_comm]

theorem readAll_planned {columns : List HeaderColumn} {items : List Program}
    (unclaimed : Unclaimed pass columns)
    (given : Gives (readAll env leaf columns) pass items next) :
    Items pass items next ∧ Claiming columns pass next := by
  induction columns generalizing pass items with
  | nil =>
      obtain ⟨rfl, rfl⟩ := gives_pure.mp given
      exact ⟨Items.nil rfl (Nat.le_refl _), Claiming.none⟩
  | cons column rest ih =>
      obtain ⟨first, middle, others, isRead, readRest, rfl⟩ := readAll_cons given
      have split : Unclaimed pass ([column] ++ rest) := unclaimed
      obtain ⟨planned, claiming⟩ := read_planned split.left isRead
      obtain ⟨items, claimingRest⟩ := ih (split.right claiming) readRest
      exact ⟨Items.cons planned items, claiming.append claimingRest⟩

theorem pack_planned {form : SequenceForm} {items : List Program} {middle : Pass}
    (planned : Items pass items middle) (given : Gives (pack form items) middle program next) :
    Planned none pass program next := by
  obtain ⟨rfl, rfl⟩ := gives_pack.mp given
  exact planned.gathered (by rw [Step.paths]) (by rw [Step.columns]) (by rw [Step.registers])

theorem constant_planned {value : Value} (given : Gives (constant value) pass program next) :
    Planned none pass program next := by
  obtain ⟨rfl, rfl⟩ := gives_constant.mp given
  exact Planned.constant value

theorem readGroup_planned {group : Namesakes} (unclaimed : Unclaimed pass group.columns)
    (given : Gives (readGroup env leaf group) pass program next) :
    Planned none pass program next ∧ Claiming group.columns pass next := by
  obtain ⟨items, middle, reads, rest⟩ := readGroup_gives given
  obtain ⟨planned, claiming⟩ := readAll_planned unclaimed reads
  rcases rest with ⟨rfl, rfl⟩ | packed
  · cases planned with
    | cons first later =>
        cases later with
        | nil claims registers =>
            refine ⟨first.widen (by simp) rfl (Nat.le_refl _) claims registers, claiming⟩
  · have ends := (gives_pack.mp packed).2
    subst ends
    exact ⟨pack_planned planned packed, claiming.advanced⟩

theorem insertGroups_planned {type : Option DictionaryType} {target : Register}
    {groups : List Namesakes} {steps : List Step} (known : target < pass.nextRegister)
    (unclaimed : Unclaimed pass (groups.flatMap Namesakes.columns))
    (given : Gives (insertGroups env leaf type target groups) pass steps next) :
    Block [target] [target] pass steps next := by
  induction groups generalizing pass steps with
  | nil =>
      obtain ⟨rfl, rfl⟩ := gives_pure.mp given
      exact Block.idle known rfl (Nat.le_refl _)
  | cons group rest ih =>
      obtain ⟨item, middle, others, isRead, inserts, rfl⟩ := insertGroups_cons given
      rw [List.flatMap_cons] at unclaimed
      obtain ⟨planned, claiming⟩ := readGroup_planned unclaimed.left isRead
      have older := planned.block.onward.registers
      have adds := planned.added (.addEntry type target group.display item.result) known
        (by simp) (by rw [Step.paths]) (by rw [Step.columns]) (by rw [Step.registers])
      have later := ih (by lia) (unclaimed.right claiming) inserts
      have both := adds.onTarget later
      rw [List.append_assoc] at both
      exact both

end Planning

end Unflatten
