import Unflatten.Proofs.Planning.Assembly
import Unflatten.Proofs.Planning.Linearity

/-!
# Targets that read a whole scope

Lists, arrays and maps of leaves and untyped targets read every column that their scope still
offers. If the cells of these columns convert, the planned programs come to the converted cells, in
the order of the columns or under the names of their groups.
-/

set_option autoImplicit false

namespace Unflatten

/-- The cells of these columns convert to these values. -/
def Header.Converts (columns : Header) (env : Environment) (row : Row) (leaf : Leaf)
    (value : HeaderColumn → Value) : Prop :=
  ∀ column ∈ columns,
    readColumn row ⟨column.index, column.name⟩ (Conversion.select env.rules leaf column.type) =
      .ok (value column)

namespace Value

/-- One value as it is, several as an array. -/
def ofCells : List Value → Value
  | [value] => value
  | values => .array values

end Value

theorem gathered_some (values : List Value) : gathered (values.map some) = some values := by
  induction values with
  | nil => rfl
  | cons first rest ih => rw [List.map_cons, gathered, Option.bind_some, ih, Option.map_some]

namespace Planning

variable {env : Environment} {recurse : Planner} {row : Row} {site : Site} {pass middle next : Pass}
variable {leaf : Leaf} {value : HeaderColumn → Value} {columns : Header} {program : Program}

theorem pack_evaluates {form : SequenceForm} {items : List Program}
    {outcomes : List (Option Value)} (gathers : Gathers row pass items outcomes middle)
    (given : Gives (pack form items) middle program next) :
    Evaluates row none program next ((gathered outcomes).map (Value.sequence form)) := by
  obtain ⟨rfl, rfl⟩ := gives_pack.mp given
  exact gathers.built _ fun registers => by rw [runStep]

theorem readAll_gathers (converts : columns.Converts env row leaf value)
    (unclaimed : Unclaimed pass columns) :
    ∃ items next, Gives (readAll env leaf columns) pass items next ∧
      Gathers row pass items ((columns.map value).map some) next := by
  induction columns generalizing pass with
  | nil => exact ⟨[], pass, gives_pure.mpr ⟨rfl, rfl⟩, Gathers.nil⟩
  | cons column rest ih =>
      have reads : Gives (read env column leaf) pass _ _ := gives_read.mpr ⟨rfl, rfl⟩
      have split : Unclaimed pass ([column] ++ rest) := unclaimed
      obtain ⟨planned, claiming⟩ := read_planned split.left reads
      have evaluates := @read_evaluates env row pass _ none _ leaf column reads
      rw [converts column (by simp)] at evaluates
      obtain ⟨others, last, readRest, gathers⟩ :=
        ih (fun other member => converts other (by simp [member])) (split.right claiming)
      refine ⟨_, _, ?_, Gathers.cons planned evaluates gathers⟩
      exact gives_bind.mpr ⟨_, _, reads, gives_bind.mpr ⟨_, _, readRest,
        gives_pure.mpr ⟨rfl, rfl⟩⟩⟩

/-! ## Groups of columns -/

theorem readGroup_evaluates {group : Namesakes}
    (converts : Header.Converts group.columns env row leaf value)
    (unclaimed : Unclaimed pass group.columns) :
    ∃ program next, Gives (readGroup env leaf group) pass program next ∧
      Evaluates row none program next (some (Value.ofCells (group.columns.map value))) := by
  obtain ⟨items, middle, reads, gathers⟩ := readAll_gathers converts unclaimed
  unfold readGroup
  generalize group.columns.map value = values at gathers
  match items, values, gathers with
  | [item], [only], gathers =>
      cases gathers with
      | cons planned evaluates later =>
          cases later
          exact ⟨item, middle, gives_bind.mpr ⟨_, _, reads, gives_pure.mpr ⟨rfl, rfl⟩⟩, evaluates⟩
  | [], [], gathers =>
      have packs : Gives (pack .array []) middle _ _ := gives_pack.mpr ⟨rfl, rfl⟩
      exact ⟨_, _, gives_bind.mpr ⟨_, _, reads, packs⟩, pack_evaluates gathers packs⟩
  | first :: second :: rest, _ :: _ :: _, gathers =>
      have packs : Gives (pack .array (first :: second :: rest)) middle _ _ :=
        gives_pack.mpr ⟨rfl, rfl⟩
      have evaluates := pack_evaluates gathers packs
      rw [gathered_some] at evaluates
      exact ⟨_, _, gives_bind.mpr ⟨_, _, reads, packs⟩, evaluates⟩

/-- The entry of a group. -/
def entryOf (value : HeaderColumn → Value) (group : Namesakes) : String × Value :=
  (group.display, Value.ofCells (group.columns.map value))

theorem insertGroups_alters {target : Register} {groups : List Namesakes}
    (converts : Header.Converts (groups.flatMap Namesakes.columns) env row leaf value)
    (known : target < pass.nextRegister)
    (unclaimed : Unclaimed pass (groups.flatMap Namesakes.columns)) :
    ∃ steps next, Gives (insertGroups env leaf none target groups) pass steps next ∧
      pass.nextRegister ≤ next.nextRegister ∧ ∀ entries : Entries Value,
        Alters row target steps next (.map entries)
          (some (.map ((groups.map (entryOf value)).foldl
            (fun entries entry => Entries.insert entry.1 entry.2 entries) entries))) := by
  induction groups generalizing pass with
  | nil => exact ⟨[], pass, gives_pure.mpr ⟨rfl, rfl⟩, Nat.le_refl _, fun _ => Alters.nil⟩
  | cons group rest ih =>
      rw [List.flatMap_cons] at converts unclaimed
      obtain ⟨item, middle, reads, evaluates⟩ := readGroup_evaluates
        (fun column member => converts column (List.mem_append_left _ member)) unclaimed.left
      obtain ⟨planned, claiming⟩ := readGroup_planned unclaimed.left reads
      have older := planned.block.onward.registers
      obtain ⟨others, next, inserts, further, alters⟩ :=
        ih (fun column member => converts column (List.mem_append_right _ member)) (by lia)
          (unclaimed.right claiming)
      refine ⟨(item.steps ++ [.addEntry none target group.display item.result]) ++ others, next, ?_,
        Nat.le_trans older further, fun entries => ?_⟩
      · rw [List.append_assoc]
        exact gives_bind.mpr ⟨_, _, reads, gives_bind.mpr ⟨_, _, inserts,
          gives_pure.mpr ⟨rfl, rfl⟩⟩⟩
      · have adds : Alters row target
            (item.steps ++ [.addEntry none target group.display item.result]) middle (.map entries)
            (some (.map (Entries.insert group.display (Value.ofCells (group.columns.map value))
              entries))) :=
          Alters.combined (fun held new => held.insertKey group.display new) planned evaluates
            known fun registers => by rw [runStep]; rfl
        refine adds.append further (fun reached same => ?_) nofun
        cases same
        exact alters _

theorem appendSteps_alters {target : Register} {items : List Program} {values : List Value}
    (gathers : Gathers row pass items (values.map some) next) (known : target < pass.nextRegister)
    (before : List Value) :
    Alters row target (appendSteps none target items) next (.list before)
      (some (.list (before ++ values))) := by
  induction items generalizing pass values before with
  | nil =>
      cases values with
      | nil =>
          rw [List.append_nil]
          exact Alters.nil
      | cons _ _ => cases gathers
  | cons item rest ih =>
      cases values with
      | nil => cases gathers
      | cons first values =>
          cases gathers with
          | cons planned evaluates later =>
              have older := planned.block.onward.registers
              have adds : Alters row target
                  (item.steps ++ [.addItem none target item.result]) _ (.list before)
                  (some (.list (before ++ [first]))) :=
                Alters.combined Value.push planned evaluates known
                  fun registers => by rw [runStep]; rfl
              have further := ih later (by lia) (before ++ [first])
              rw [List.append_assoc] at further
              refine adds.append later.toItems.registers (fun reached same => ?_) nofun
              cases same
              exact further

/-! ## Planners at the root -/

theorem start_evaluates (site : Site) (expectation : Expectation) {step : Step} {empty : Value}
    (writes : ∀ registers, runStep row registers step =
      .ok (registers.write pass.nextRegister empty)) :
    ∃ start next, Gives (reuseOrCreate site expectation (Program.single step pass.nextRegister))
        pass.advanced start next ∧
      Evaluates row site.existing start next (some empty) ∧ next.claims = pass.claims ∧
      start.result < next.nextRegister := by
  have creates : Evaluates row none (Program.single step pass.nextRegister) pass.advanced
      (some empty) :=
    @Evaluates.single _ _ pass _ _ (.ok empty) writes rfl
  obtain ⟨start, next, given, evaluates, claims⟩ :=
    reuseOrCreate_evaluates site expectation creates
  refine ⟨start, next, given, evaluates, claims, ?_⟩
  rcases reuseOrCreate_gives given with ⟨-, rfl, rfl⟩ | ⟨existing, -, rfl, rfl⟩
  · exact Nat.lt_succ_self _
  · exact Nat.lt_succ_self _

section Planners

variable (unclaimed : Unclaimed pass (env.header.available pass.claims site.scope))
variable (converts :
  Header.Converts (env.header.available pass.claims site.scope) env row leaf value)
variable (isRoot : site.isRoot = true)

theorem isAbsent_root (isRoot : site.isRoot = true) :
    Gives (isAbsent env site) pass false pass :=
  gives_isAbsent.mpr ⟨by rw [isRoot]; rfl, rfl⟩

include unclaimed converts

theorem insertNamesakes_alters {between : Pass} {target : Register}
    (claims : between.claims = pass.claims) (below : target < between.nextRegister) :
    ∃ steps next,
      Gives (insertGroups env leaf none target (env.header.namesakes pass.claims site.scope))
        between steps next ∧
      between.nextRegister ≤ next.nextRegister ∧
      Alters row target steps next (.map [])
        (some (.map (Entries.ofList
          ((env.header.namesakes pass.claims site.scope).map (entryOf value))))) := by
  have same := @Header.namesakes_perm env.header pass site.scope
  obtain ⟨steps, next, inserts, further, alters⟩ := insertGroups_alters
    (fun column member => converts column (same.mem_iff.mp member)) below
    ((unclaimed.congr claims).perm same)
  exact ⟨steps, next, inserts, further, alters []⟩

include isRoot

variable (env recurse site)

theorem planItems_evaluates {element : Target} (isLeaf : element.leaf? = some leaf) :
    ∃ program next, Gives (planItems env recurse site none element) pass (some program) next ∧
      Evaluates row site.existing program next
        (some (.list ((env.header.available pass.claims site.scope).map value))) := by
  have starting : ∀ registers, runStep row registers (.startSequence none pass.nextRegister) =
      .ok (registers.write pass.nextRegister (.list [])) :=
    fun registers => by rw [runStep]; rfl
  obtain ⟨start, between, started, starts, claims, below⟩ :=
    start_evaluates site .sequence starting
  obtain ⟨items, next, reads, gathers⟩ := readAll_gathers converts (unclaimed.congr claims)
  rw [← claims] at reads
  refine ⟨⟨start.steps ++ appendSteps none start.result items, start.result⟩, next, ?_, ?_⟩
  · refine gives_bind.mpr ⟨_, _, isAbsent_root isRoot, ?_⟩
    refine gives_bind.mpr ⟨_, _, gives_fresh.mpr ⟨rfl, rfl⟩, ?_⟩
    refine gives_bind.mpr ⟨_, _, started, gives_bind.mpr ⟨items, next, ?_,
      gives_pure.mpr ⟨rfl, rfl⟩⟩⟩
    rw [planElements, isLeaf]
    exact gives_bind.mpr ⟨_, _, gives_available.mpr ⟨rfl, rfl⟩, reads⟩
  · refine starts.filled gathers.toItems.registers (fun reached same => ?_) nofun
    cases same
    exact appendSteps_alters gathers below []

theorem planArray_evaluates {element : Target} (isLeaf : element.leaf? = some leaf)
    (isArray : site.target = .array element) :
    ∃ program next, Gives (planArray env recurse site) pass (some program) next ∧
      Evaluates row site.existing program next
        (some (.array ((env.header.available pass.claims site.scope).map value))) := by
  obtain ⟨items, middle, reads, gathers⟩ := readAll_gathers converts unclaimed
  have packs : Gives (pack .array items) middle _ _ := gives_pack.mpr ⟨rfl, rfl⟩
  have evaluates := pack_evaluates gathers packs
  rw [gathered_some] at evaluates
  refine ⟨_, _, ?_, fun registers fits _ => evaluates registers fits (by simp)⟩
  unfold planArray
  rw [isArray]
  refine gives_bind.mpr ⟨_, _, isAbsent_root isRoot, ?_⟩
  simp only [Target.isLeaf, isLeaf, Option.isSome_some]
  refine gives_bind.mpr ⟨items, middle, ?_, gives_planned.mpr ⟨_, rfl, packs⟩⟩
  rw [planElements, isLeaf]
  exact gives_bind.mpr ⟨_, _, gives_available.mpr ⟨rfl, rfl⟩, reads⟩

theorem planEntries_evaluates {element : Target} (isLeaf : element.leaf? = some leaf) :
    ∃ program next, Gives (planEntries env recurse site none element) pass (some program) next ∧
      Evaluates row site.existing program next
        (some (.map (Entries.ofList
          ((env.header.namesakes pass.claims site.scope).map (entryOf value))))) := by
  have starting : ∀ registers, runStep row registers (.startMap none pass.nextRegister) =
      .ok (registers.write pass.nextRegister (.map [])) :=
    fun registers => by rw [runStep]; rfl
  obtain ⟨start, between, started, starts, claims, below⟩ :=
    start_evaluates site .map starting
  obtain ⟨steps, next, inserts, further, alters⟩ :=
    insertNamesakes_alters unclaimed converts claims below
  refine ⟨⟨start.steps ++ steps, start.result⟩, next, ?_, ?_⟩
  · refine gives_bind.mpr ⟨_, _, isAbsent_root isRoot, ?_⟩
    refine gives_bind.mpr ⟨_, _, gives_fresh.mpr ⟨rfl, rfl⟩, ?_⟩
    refine gives_bind.mpr ⟨_, _, started, gives_bind.mpr ⟨steps, next, ?_,
      gives_pure.mpr ⟨rfl, rfl⟩⟩⟩
    rw [planInserts, isLeaf]
    refine gives_bind.mpr ⟨_, _, gives_claims.mpr ⟨rfl, rfl⟩, ?_⟩
    rw [claims]
    exact inserts
  · refine starts.filled further (fun reached same => ?_) nofun
    cases same
    exact alters

theorem planUntyped_evaluates (isLeaf : site.target.leaf? = some leaf)
    (isAny : leaf.isAny = true) :
    ∃ program next, Gives (planUntyped env site) pass (some program) next ∧
      Evaluates row site.existing program next
        (some (.map (Entries.ofList
          ((env.header.namesakes pass.claims site.scope).map (entryOf value))))) := by
  have unchanged : pass.advanced.claims = pass.claims := rfl
  have starts : Evaluates row site.existing
      (Program.single (.startMap none pass.nextRegister) pass.nextRegister) pass.advanced
      (some (.map [])) :=
    @Evaluates.single _ _ pass _ _ (.ok (.map [])) (fun registers => by rw [runStep]; rfl) rfl
  obtain ⟨steps, next, inserts, further, alters⟩ :=
    insertNamesakes_alters unclaimed converts unchanged (Nat.lt_succ_self _)
  refine ⟨⟨.startMap none pass.nextRegister :: steps, pass.nextRegister⟩, next, ?_, ?_⟩
  · rw [planUntyped, isLeaf]
    simp only [isAny, isRoot]
    refine gives_bind.mpr ⟨_, _, gives_fresh.mpr ⟨rfl, rfl⟩, ?_⟩
    refine gives_bind.mpr ⟨_, _, gives_claims.mpr ⟨rfl, rfl⟩, ?_⟩
    exact gives_bind.mpr ⟨_, _, inserts, gives_pure.mpr ⟨rfl, rfl⟩⟩
  · refine starts.filled further (fun reached same => ?_) nofun
    cases same
    exact alters

end Planners

end Planning

end Unflatten
