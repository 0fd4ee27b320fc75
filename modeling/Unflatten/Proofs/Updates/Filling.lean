import Unflatten.Proofs.Planning.Linearity
import Unflatten.Proofs.Program.FieldChanges
import Unflatten.Proofs.Program.Meanings

/-!
# Containers that are filled

The program of a list or of a map starts with the container that is there already, if it is of the
right kind, or else with an empty one, and fills it. What is put in is planned without an existing
value, so it is the same whatever the container has held before.
-/

set_option autoImplicit false

namespace Unflatten

open Planning

/-- Items are appended to a list, or one of them fails. -/
def Change.Appends (change : Change) : Prop :=
  ∃ items? : Option (List Value), ∀ present : List Value,
    change (.list present) = items?.map fun items => .list (present ++ items)

/-- Entries are inserted into a map, or one of them fails. -/
def Change.Inserts (change : Change) : Prop :=
  ∃ pairs? : Option (List (String × Value)), ∀ entries : Entries Value,
    change (.map entries) = pairs?.map fun pairs => .map (Entries.union entries pairs)

namespace Change.Appends

variable {rest : Change}

theorem nil : Change.Appends some :=
  ⟨some [], fun present => by rw [Option.map_some, List.append_nil]⟩

theorem cons (item? : Option Value) (appends : rest.Appends) :
    Change.Appends fun value => (item?.map value.push).bind rest := by
  obtain ⟨items?, same⟩ := appends
  refine ⟨item?.bind fun item => items?.map fun items => item :: items, fun present => ?_⟩
  cases item? with
  | none => rfl
  | some item =>
      have pushed : (Value.list present).push item = .list (present ++ [item]) := rfl
      simp only [Option.map_some, Option.bind_some, Option.map_map, pushed, same, Function.comp_def,
        List.append_assoc, List.cons_append, List.nil_append]

end Change.Appends

namespace Change.Inserts

variable {change rest : Change}

theorem nil : Change.Inserts some :=
  ⟨some [], fun _ => rfl⟩

theorem cons (key : String) (item? : Option Value) (inserts : rest.Inserts) :
    Change.Inserts fun value => (item?.map (value.insertKey key)).bind rest := by
  obtain ⟨pairs?, same⟩ := inserts
  refine ⟨item?.bind fun item => pairs?.map fun pairs => (key, item) :: pairs, fun entries => ?_⟩
  cases item? with
  | none => rfl
  | some item =>
      rw [Option.bind_some, Option.map_map]
      exact same _

theorem settles (inserts : change.Inserts) {before after : Value}
    (isMap : Expectation.map.accepts before = true) (given : change before = some after) :
    Expectation.map.accepts after = true ∧ change after = some after := by
  obtain ⟨pairs?, same⟩ := inserts
  cases before with
  | map entries =>
      rw [same] at given
      obtain ⟨pairs, isPairs, rfl⟩ := Option.map_eq_some_iff.mp given
      refine ⟨rfl, ?_⟩
      rw [same, isPairs, Option.map_some, Entries.union_union]
  | _ => cases isMap

end Change.Inserts

namespace Planning

variable {env : Environment} {recurse : Planner} {row : Row} {site : Site} {pass middle next : Pass}
variable {program create : Program} {register target : Register} {steps : List Step}
variable {meaning : Change}

/-! ## Starting -/

theorem reuseOrCreate_means {expectation : Expectation} {created : Change}
    (isExisting : site.existing = some register) (creates : Means row none pass create middle created)
    (given : Gives (reuseOrCreate site expectation create) middle program next) :
    Means row (some register) pass program next
      fun value => if expectation.accepts value then some value else created .null := by
  rcases reuseOrCreate_gives given with ⟨isNew, -⟩ | ⟨existing, found, rfl, rfl⟩
  · rw [isExisting] at isNew
    cases isNew
  · rw [isExisting] at found
    cases found
    exact Means.reuse (Nat.lt_succ_self _) Means.keep (creates.later (Nat.le_succ _))

theorem start_means {step : Step} {empty : Value}
    (starts : ∀ registers, runStep row registers step =
      writeOutcome registers pass.nextRegister (.ok empty)) :
    Means row none pass (Program.single step pass.nextRegister) pass.advanced
      fun _ => some empty :=
  fun registers isOpen => runTo_single (starts registers) isOpen.fits

/-! ## Lists -/

section Lists

end Lists

/-! ## Maps -/

section Maps

variable (indexed : env.header.WellIndexed) (reliable : Reliable env recurse)
variable (sized : pass.claims.length = env.header.length)

theorem addEntry_changes {key : String} (planned : Planned none pass program next)
    (means : Means row none pass program next meaning) (known : target < pass.nextRegister) :
    Changes row target pass (program.steps ++ [.addEntry none target key program.result]) next
      fun value => (meaning .null).map (value.insertKey key) :=
  Changes.combined (fun held => held.insertKey key) planned means known
    fun registers => by rw [runStep]; rfl

theorem insertGroups_inserts (row : Row) {leaf : Leaf} {groups : List Namesakes}
    (known : target < pass.nextRegister)
    (unclaimed : Unclaimed pass (groups.flatMap Namesakes.columns))
    (given : Gives (insertGroups env leaf none target groups) pass steps next) :
    ∃ change : Change, Changes row target pass steps next change ∧ change.Inserts := by
  induction groups generalizing pass steps with
  | nil =>
      obtain ⟨rfl, -⟩ := gives_pure.mp given
      exact ⟨some, Changes.nil, Change.Inserts.nil⟩
  | cons group rest ih =>
      obtain ⟨item, middle, others, reads, inserts, rfl⟩ := insertGroups_cons given
      rw [List.flatMap_cons] at unclaimed
      obtain ⟨planned, claiming⟩ := readGroup_planned unclaimed.left reads
      have further := unclaimed.right claiming
      have stillKnown := Nat.lt_of_lt_of_le known planned.block.onward.registers
      obtain ⟨meaning, means⟩ := planned.exists_means row
      obtain ⟨change, changes, isInserts⟩ := ih stillKnown further inserts
      have block := planned.added (.addEntry none target group.display item.result) known (by simp)
        (by rw [Step.paths]) (by rw [Step.columns]) (by rw [Step.registers])
      have restBlock := insertGroups_planned stillKnown further inserts
      rw [List.append_cons]
      exact ⟨_, (addEntry_changes planned means known).append block restBlock.onward.registers
        changes, isInserts.cons _ _⟩

include reliable in
theorem insertSegments_inserts (row : Row) {value : Target} {segments : List (String × String)}
    (sized : pass.claims.length = env.header.length) (known : target < pass.nextRegister)
    (given : Gives (insertSegments env recurse site none value target segments) pass steps next) :
    ∃ change : Change, Changes row target pass steps next change ∧ change.Inserts := by
  induction segments generalizing pass steps with
  | nil =>
      obtain ⟨rfl, -⟩ := gives_pure.mp given
      exact ⟨some, Changes.nil, Change.Inserts.nil⟩
  | cons head rest ih =>
      obtain ⟨segment, key⟩ := head
      obtain ⟨found, middle, others, planned, inserts, rfl⟩ := insertSegments_cons given
      cases found with
      | none =>
          obtain rfl := reliable.declines planned
          exact ih sized known inserts
      | some item =>
          have first := reliable.new sized rfl planned
          have stillSized := first.block.onward.length.trans sized
          have stillKnown := Nat.lt_of_lt_of_le known first.block.onward.registers
          obtain ⟨meaning, means⟩ := first.exists_means row
          obtain ⟨change, changes, isInserts⟩ := ih stillSized stillKnown inserts
          have block := first.added (.addEntry none target key item.result) known (by simp)
            (by rw [Step.paths]) (by rw [Step.columns]) (by rw [Step.registers])
          have restBlock := insertSegments_planned reliable stillSized stillKnown inserts
          exact ⟨_, (addEntry_changes first means known).append block restBlock.onward.registers
            changes, isInserts.cons _ _⟩

include indexed reliable sized

theorem planEntries_inserts (row : Row) (isExisting : site.existing = some register)
    (known : register < pass.nextRegister) {value : Target}
    (given : Gives (planEntries env recurse site none value) pass (some program) next) :
    ∃ change : Change, change.Inserts ∧ Means row (some register) pass program next fun value =>
      (if Expectation.map.accepts value then some value else some (.map [])).bind change := by
  rcases planEntries_gives given with ⟨impossible, -⟩ | ⟨start, middle, inserts, starting, fills,
    same⟩
  · cases impossible
  cases same
  have created : Planned none pass
      (Program.single (.startMap none pass.nextRegister) pass.nextRegister) pass.advanced :=
    Planned.write (by rw [Step.paths]) (by rw [Step.columns]) (by rw [Step.registers])
  have creates : Means row none pass
      (Program.single (.startMap none pass.nextRegister) pass.nextRegister) pass.advanced
      fun _ => some (.map []) :=
    start_means fun registers => by rw [runStep]; rfl
  have started := reuseOrCreate_planned (Register.known_existing isExisting known) created starting
  have starts := reuseOrCreate_means isExisting creates starting
  rw [isExisting] at started
  have stillSized := started.block.onward.length.trans sized
  have inserted := planInserts_planned indexed reliable stillSized started.below fills
  have isInserts : ∃ change : Change,
      Changes row start.result middle inserts next change ∧ change.Inserts := by
    rcases planInserts_gives fills with ⟨leaf, -, groups⟩ | ⟨-, segments⟩
    · have unclaimed := Header.available_unclaimed site.scope indexed stillSized
      exact insertGroups_inserts row started.below (unclaimed.perm Header.namesakes_perm) groups
    · exact insertSegments_inserts reliable row stillSized started.below segments
  obtain ⟨change, changes, isInserts⟩ := isInserts
  exact ⟨change, isInserts, Means.filled started starts inserted.onward.registers changes⟩

end Maps

end Planning

end Unflatten
