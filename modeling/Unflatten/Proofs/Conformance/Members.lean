import Unflatten.Proofs.Conformance.Runs

/-!
# Leaves and containers conform

What a planner of leaves, tuples, arrays, sequences or maps has planned yields a value that conforms
to the target of its site, if the planner of members does. An existing value is taken to be null or
to conform already.
-/

set_option autoImplicit false

namespace Unflatten

namespace Environment

variable (env : Environment)

abbrev Conforms : Target → Value → Prop :=
  Unflatten.Conforms env.settings env.bindings

abbrev Fits : Target → Value → Prop :=
  Unflatten.Fits env.settings env.bindings

abbrev FitsEntry : Target → Value → Prop :=
  Unflatten.FitsEntry env.settings env.bindings

abbrev Within : Target → Target → Prop :=
  Unflatten.Within env.settings env.bindings

/-- A value that a site may update. -/
def Reusable (target : Target) (value : Value) : Prop :=
  value = .null ∨ env.Conforms target value

end Environment

section Resolving

variable {settings : Settings} {bindings : Bindings} {target : Target} {value : Value}

theorem Conforms.ofResolved
    (conforms : Conforms settings bindings (target.resolve bindings) value) :
    Conforms settings bindings target value := by
  cases target with
  | reference ref =>
      cases bound : bindings.find? ref with
      | none => rwa [Target.resolve, bound] at conforms
      | some type =>
          rw [Target.resolve, bound] at conforms
          exact Conforms.reference bound conforms
  | _ => exact conforms

theorem Conforms.resolved (conforms : Conforms settings bindings target value) :
    Conforms settings bindings (target.resolve bindings) value := by
  cases target with
  | reference ref =>
      cases conforms with
      | leaf isLeaf => cases isLeaf
      | reference bound conforms =>
          rw [Target.resolve, bound]
          exact conforms
  | _ => exact conforms

theorem Within.resolved {root : Target} (within : Within settings bindings root target) :
    Within settings bindings root (target.resolve bindings) := by
  cases target with
  | reference ref =>
      cases bound : bindings.find? ref with
      | none => rwa [Target.resolve, bound]
      | some type =>
          rw [Target.resolve, bound]
          exact Within.reference within bound
  | _ => exact within

end Resolving

namespace Planning

/-- The columns hold cells of their types, the types within the root are orderly, and the planner of
members yields values that conform. -/
structure Sound (env : Environment) (root : Target) (row : Row) (recurse : Planner) : Prop where
  indexed : env.header.WellIndexed
  cells : ∀ column ∈ env.header, column.type.Allows (row.value column.index)
  orderly : Orderly env.settings env.bindings root
  reliable : Reliable env recurse
  yields : ∀ {site : Site} {pass next : Pass} {program : Program},
    pass.claims.length = env.header.length →
    (∀ register, site.existing = some register → register < pass.nextRegister) →
    env.Within root site.target → Gives (recurse site) pass (some program) next →
    Yields row site.existing (env.Reusable site.target) (env.Conforms site.target) program next

variable {env : Environment} {root : Target} {row : Row} {recurse : Planner} {site : Site}
variable {pass next : Pass} {program : Program} {input : Value → Prop}

theorem Sound.new {target : Target} (sound : Sound env root row recurse)
    (sized : pass.claims.length = env.header.length) (within : env.Within root target)
    (fresh : site.existing = none) (resolves : site.target = target.resolve env.bindings)
    (given : Gives (recurse site) pass (some program) next) :
    Yields row none input (env.Conforms target) program next := by
  have inside : env.Within root site.target := by
    rw [resolves]
    exact within.resolved
  have yields := sound.yields sized (by simp [fresh]) inside given
  rw [fresh, resolves] at yields
  exact Yields.ofNew (yields.mono fun value conforms => conforms.ofResolved)

/-! ## Leaves -/

section Leaves

variable (sound : Sound env root row recurse)
include sound

theorem read_yields {column : HeaderColumn} {leaf : Leaf} (member : column ∈ env.header)
    (given : Gives (read env column leaf) pass program next) :
    Yields row none input leaf.Admits program next := by
  obtain ⟨rfl, rfl⟩ := gives_read.mp given
  refine Yields.outcome _ (fun registers => by rw [runStep]) rfl fun value made => ?_
  unfold readColumn at made
  split at made
  · rename_i converted applied
    cases made
    have rules : env.rules = ConversionRule.inOrder [] := by
      rw [Environment.rules, sound.orderly.rules]
    rw [rules] at applied
    exact Conversion.select_admits applied (sound.cells column member)
  · cases made

theorem readAll_produces {leaf : Leaf} {columns : List HeaderColumn} {items : List Program}
    (unclaimed : Unclaimed pass columns) (members : ∀ column ∈ columns, column ∈ env.header)
    (given : Gives (readAll env leaf columns) pass items next) :
    Produces row pass items (items.map fun _ => leaf.Admits) next := by
  induction columns generalizing pass items with
  | nil =>
      obtain ⟨rfl, rfl⟩ := gives_pure.mp given
      exact Produces.nil rfl (Nat.le_refl _)
  | cons column rest ih =>
      obtain ⟨first, middle, others, isRead, readRest, rfl⟩ := readAll_cons given
      have split : Unclaimed pass ([column] ++ rest) := unclaimed
      obtain ⟨planned, claiming⟩ := read_planned split.left isRead
      have yields : Yields row none (fun _ => True) leaf.Admits first middle :=
        read_yields sound (members column (by simp)) isRead
      exact Produces.cons planned yields (ih (split.right claiming)
        (fun other member => members other (by simp [member])) readRest)

omit sound in
theorem planUntyped_yields (given : Gives (planUntyped env site) pass (some program) next) :
    Yields row none input (env.Conforms site.target) program next := by
  rcases planUntyped_gives given with ⟨impossible, -⟩ | ⟨planned, leaf, -, isLeaf, isAny, -⟩
  · cases impossible
  · exact fun _ _ _ _ _ => Conforms.leaf isLeaf (Leaf.Admits.untyped isAny)

theorem planLeaf_yields (given : Gives (planLeaf env site) pass (some program) next) :
    Yields row none input (env.Conforms site.target) program next := by
  rcases planLeaf_gives given with ⟨impossible, -⟩ | ⟨planned, leaf, same, isLeaf, ways⟩
  · cases impossible
  cases same
  rcases ways with ⟨column, first, reads⟩ | ⟨-, default⟩
  · have member := (List.mem_filter.mp (List.mem_of_head? first)).1
    exact (read_yields sound member reads).mono fun value admits => Conforms.leaf isLeaf admits
  · obtain ⟨rfl, rfl⟩ := gives_constant.mp default
    exact Yields.constant (Conforms.leaf isLeaf Leaf.Admits.default)

end Leaves

/-! ## Several members -/

theorem each_of_forall₂ {items : List Program} {output : Value → Prop} {values : List Value}
    (holds : List.Forall₂ (fun output value => output value) (items.map fun _ => output) values) :
    ∀ value ∈ values, output value := by
  induction items generalizing values with
  | nil =>
      cases holds
      simp
  | cons item rest ih =>
      cases holds with
      | cons first later =>
          intro value member
          rcases List.mem_cons.mp member with rfl | member
          · exact first
          · exact ih later value member

theorem Produces.mono {items : List Program} {output wider : Value → Prop}
    (produces : Produces row pass items (items.map fun _ => output) next)
    (implied : ∀ value, output value → wider value) :
    Produces row pass items (items.map fun _ => wider) next := by
  induction items generalizing pass with
  | nil =>
      cases produces with
      | nil claims registers => exact Produces.nil claims registers
  | cons item rest ih =>
      cases produces with
      | cons planned yields later => exact Produces.cons planned (yields.mono implied) (ih later)

theorem pack_yields {form : SequenceForm} {items : List Program} {outputs : List (Value → Prop)}
    {middle : Pass} {output : Value → Prop} (produces : Produces row pass items outputs middle)
    (given : Gives (pack form items) middle program next)
    (holds : ∀ values, List.Forall₂ (fun output value => output value) outputs values →
      output (.sequence form values)) :
    Yields row none input output program next := by
  obtain ⟨rfl, rfl⟩ := gives_pack.mp given
  exact Produces.gathered (.sequence form) produces (fun registers => by rw [runStep]) holds

section Containers

variable (sound : Sound env root row recurse)

include sound in
theorem planSlots_produces {slots : List Target} {items : List Program}
    (sized : pass.claims.length = env.header.length)
    (within : ∀ slot ∈ slots, env.Within root slot)
    (given : Gives (planSlots env recurse site slots) pass items next) :
    Produces row pass items (slots.map env.Fits) next := by
  induction slots generalizing pass items with
  | nil =>
      obtain ⟨rfl, rfl⟩ := gives_pure.mp given
      exact Produces.nil rfl (Nat.le_refl _)
  | cons target rest ih =>
      obtain ⟨first, middle, others, way, slots, rfl⟩ := planSlots_cons given
      have isWithin := within target (by simp)
      have member : Planned none pass first middle ∧
          Yields row none (fun _ => True) (env.Fits target) first middle := by
        rcases way with slot | ⟨between, declined, default⟩
        · refine ⟨sound.reliable.new sized rfl slot, ?_⟩
          exact (sound.new sized isWithin rfl rfl slot).mono fun value conforms =>
            Fits.conforms conforms
        · obtain rfl := sound.reliable.declines declined
          refine ⟨constant_planned default, ?_⟩
          obtain ⟨rfl, rfl⟩ := gives_constant.mp default
          exact Yields.constant Fits.default
      exact Produces.cons member.1 member.2 (ih (member.1.block.onward.length.trans sized)
        (fun slot isSlot => within slot (by simp [isSlot])) slots)

include sound in
theorem planTuple_yields (sized : pass.claims.length = env.header.length)
    (within : env.Within root site.target)
    (given : Gives (planTuple env recurse site) pass (some program) next) :
    Yields row none input (env.Conforms site.target) program next := by
  rcases planTuple_gives given with ⟨impossible, -⟩ |
    ⟨planned, slots, items, middle, same, isTuple, slotsPlanned, packs⟩
  · cases impossible
  cases same
  rw [isTuple] at within ⊢
  have produces := planSlots_produces sound sized (fun slot member => Within.tuple within member)
    slotsPlanned
  refine pack_yields produces packs fun values holds => ?_
  rw [List.forall₂_map_left_iff] at holds
  exact Conforms.tuple holds.length_eq.symm fun entry member => List.forall₂_zip holds member

include sound in
theorem repeatElement_produces {element : Target} {limit : Nat} {items : List Program}
    (sized : pass.claims.length = env.header.length) (within : env.Within root element)
    (given : Gives (repeatElement env recurse site element limit) pass items next) :
    Produces row pass items (items.map fun _ => env.Conforms element) next := by
  induction limit generalizing pass items with
  | zero =>
      obtain ⟨rfl, rfl⟩ := gives_pure.mp given
      exact Produces.nil rfl (Nat.le_refl _)
  | succ limit ih =>
      have planned := repeatElement_planned sound.reliable sized given
      rcases repeatElement_succ given with ⟨rfl, found, middle, -, rfl⟩ |
        ⟨item, middle, member, -, rest⟩
      · exact Produces.nil rfl planned.registers
      · have first := sound.reliable.new sized rfl member
        have yields : Yields row none (fun _ => True) (env.Conforms element) item middle :=
          sound.new sized within rfl rfl member
        rcases rest with ⟨others, more, rfl⟩ | ⟨failure, failed, rfl⟩
        · exact Produces.cons first yields (ih (first.block.onward.length.trans sized) more)
        · exact Produces.cons first yields (Produces.nil (repeatElement_fails failed)
            ((climbs_repeatElement sound.reliable.climbs).fails failed))

include sound in
theorem planElements_produces {element : Target} {items : List Program}
    (sized : pass.claims.length = env.header.length) (within : env.Within root element)
    (given : Gives (planElements env recurse site element) pass items next) :
    Produces row pass items (items.map fun _ => env.Conforms element) next := by
  rcases planElements_gives given with ⟨leaf, isLeaf, reads⟩ | ⟨-, repeats⟩
  · have unclaimed := Header.available_unclaimed site.scope sound.indexed sized
    have produces := readAll_produces sound unclaimed
      (fun column member => (List.mem_filter.mp member).1) reads
    exact Produces.mono produces fun value admits => Conforms.leaf isLeaf admits
  · exact repeatElement_produces sound sized within repeats

include sound in
theorem planArray_yields (sized : pass.claims.length = env.header.length)
    (within : env.Within root site.target)
    (given : Gives (planArray env recurse site) pass (some program) next) :
    Yields row none input (env.Conforms site.target) program next := by
  rcases planArray_gives given with ⟨impossible, -⟩ |
    ⟨planned, element, items, middle, same, isArray, way, packs⟩
  · cases impossible
  cases same
  rw [isArray] at within ⊢
  have inside : env.Within root element := Within.array within
  have produces : Produces row pass items (items.map fun _ => env.Conforms element) middle := by
    rcases way with ⟨-, elements⟩ | ⟨item, member, rfl⟩ | ⟨declined, rfl⟩
    · exact planElements_produces sound sized inside elements
    · have yields : Yields row none (fun _ => True) (env.Conforms element) item middle :=
        sound.new sized inside rfl rfl member
      exact Produces.cons (sound.reliable.new sized rfl member) yields
        (Produces.nil rfl (Nat.le_refl _))
    · obtain rfl := sound.reliable.declines declined
      exact Produces.nil rfl (Nat.le_refl _)
  exact pack_yields produces packs fun values holds => Conforms.array (each_of_forall₂ holds)

end Containers

/-! ## Values that are updated -/

theorem reuseOrCreate_yields {expectation : Expectation} {create : Program} {middle : Pass}
    {output : Value → Prop} (creates : Yields row none input output create middle)
    (accepted : ∀ value, expectation.accepts value = true → input value → output value)
    (given : Gives (reuseOrCreate site expectation create) middle program next) :
    Yields row site.existing input output program next := by
  rcases reuseOrCreate_gives given with ⟨fresh, rfl, rfl⟩ | ⟨existing, found, rfl, rfl⟩
  · rw [fresh]
    exact creates
  · rw [found]
    exact Yields.reuse Yields.keep creates accepted (Nat.le_succ _) (Nat.le_succ _)
      (Nat.lt_succ_self _)

/-- Items of a list. -/
def IsList (element : Value → Prop) (value : Value) : Prop :=
  ∃ items, value = .sequence .list items ∧ ∀ item ∈ items, element item

/-- Entries of a map. -/
def IsMap (entry : Value → Prop) (value : Value) : Prop :=
  ∃ entries, value = .map entries ∧ ∀ field ∈ entries, entry field.2

theorem appendSteps_collects {type : Option SequenceType} {target : Register}
    {items : List Program} {outputs : List (Value → Prop)} (pushes : addItem type = Value.push)
    (produces : Produces row pass items outputs next) (known : target < pass.nextRegister)
    (before : List Value) :
    Brings row target (fun held => held = .sequence .list before)
      (fun held => ∃ values, List.Forall₂ (fun output value => output value) outputs values ∧
        held = .sequence .list (before ++ values)) (appendSteps type target items) next := by
  unfold appendSteps
  induction produces generalizing before with
  | nil =>
      intro registers finished _ same ran
      cases ran
      exact ⟨[], .nil, by rw [same, List.append_nil]⟩
  | @cons pass middle next item rest output outputs input planned yields later ih =>
      rw [List.flatMap_cons]
      have appends : Brings row target (fun held => held = .sequence .list before)
          (fun held => ∃ value, output value ∧ held = .sequence .list (before ++ [value]))
          (item.steps ++ [.addItem type target item.result]) middle :=
        Brings.added Value.push planned yields known (fun registers => by rw [runStep, pushes])
          fun held value same isItem => ⟨value, isItem, by rw [same]; rfl⟩
      refine Brings.append later.toItems.registers appends ?_
      rintro registers finished fits ⟨value, isItem, same⟩ ran
      obtain ⟨values, each, whole⟩ :=
        ih (Nat.lt_of_lt_of_le known planned.block.onward.registers) (before ++ [value]) registers
          finished fits same ran
      exact ⟨value :: values, .cons isItem each, by rw [whole, List.append_assoc]; rfl⟩

theorem appendSteps_keeps {type : Option SequenceType} {target : Register} {items : List Program}
    {element : Value → Prop} (pushes : addItem type = Value.push)
    (produces : Produces row pass items (items.map fun _ => element) next)
    (known : target < pass.nextRegister) :
    Keeps row target (IsList element) (appendSteps type target items) next := by
  rintro registers finished fits ⟨before, same, each⟩ ran
  obtain ⟨values, others, whole⟩ :=
    appendSteps_collects pushes produces known before registers finished fits same ran
  refine ⟨before ++ values, whole, fun item member => ?_⟩
  rcases List.mem_append.mp member with member | member
  · exact each item member
  · exact each_of_forall₂ others item member

section Sequences

variable (sound : Sound env root row recurse)
variable (sized : pass.claims.length = env.header.length)
variable (known : ∀ register, site.existing = some register → register < pass.nextRegister)
include sound sized known

theorem planItems_yields {type : Option SequenceType} {element : Target}
    (within : env.Within root element) (pushes : addItem type = Value.push)
    (starts : ∀ value, newSequence type = .ok value → value = .list [])
    (accepted : ∀ value, (sequenceExpectation type).accepts value = true → input value →
      IsList (env.Conforms element) value)
    (given : Gives (planItems env recurse site type element) pass (some program) next) :
    Yields row site.existing input (IsList (env.Conforms element)) program next := by
  rcases planItems_gives given with ⟨impossible, -⟩ | ⟨start, middle, items, started, elements,
    same⟩
  · cases impossible
  cases same
  have created : Planned none pass
      (Program.single (.startSequence type pass.nextRegister) pass.nextRegister) pass.advanced :=
    Planned.write (by rw [Step.paths]) (by rw [Step.columns]) (by rw [Step.registers])
  have begins := reuseOrCreate_planned known created started
  have creates : Yields row none input (IsList (env.Conforms element))
      (Program.single (.startSequence type pass.nextRegister) pass.nextRegister) pass.advanced := by
    refine Yields.outcome (newSequence type) (fun registers => by rw [runStep]) rfl ?_
    intro value made
    exact ⟨[], starts value made, by simp⟩
  have produces := planElements_produces sound (begins.block.onward.length.trans sized) within
    elements
  exact Yields.filled produces.toItems.registers (reuseOrCreate_yields creates accepted started)
    (appendSteps_keeps pushes produces begins.below)

theorem planSequence_yields (within : env.Within root site.target)
    (given : Gives (planSequence env recurse site) pass (some program) next) :
    Yields row site.existing (env.Reusable site.target) (env.Conforms site.target) program
      next := by
  rcases planSequence_gives given with ⟨impossible, -⟩ | ⟨element, isList, given⟩ |
    ⟨type, isSequence, given⟩
  · cases impossible
  · rw [isList] at within ⊢
    have starts : ∀ value, newSequence none = .ok value → value = .list [] := by
      intro value made
      cases made
      rfl
    have accepted : ∀ value, (sequenceExpectation none).accepts value = true →
        env.Reusable (.list element) value → IsList (env.Conforms element) value := by
      rintro value accepts (rfl | conforms)
      · cases accepts
      · cases conforms with
        | leaf isLeaf => cases isLeaf
        | list each => exact ⟨_, rfl, each⟩
    have yields := planItems_yields sound sized known (Within.list within) rfl starts accepted given
    refine yields.mono ?_
    rintro value ⟨items, rfl, each⟩
    exact Conforms.list each
  · rw [isSequence] at within ⊢
    obtain ⟨pushes, seeds⟩ := sound.orderly.sequences type within
    have starts : ∀ value, newSequence (some type) = .ok value → value = .list [] := by
      intro value made
      rw [newSequence] at made
      cases seed : type.seed with
      | none =>
          rw [seed] at made
          cases made
      | some first =>
          rw [seed] at made
          obtain rfl : first = value := by simpa using made
          exact seeds first seed
    have adds : addItem (some type) = Value.push := by
      funext held item
      rw [addItem, pushes]
    have accepted : ∀ value, (sequenceExpectation (some type)).accepts value = true →
        env.Reusable (.sequence type) value → IsList (env.Conforms type.element) value := by
      rintro value accepts (rfl | conforms)
      · cases accepts
      · cases conforms with
        | leaf isLeaf => cases isLeaf
        | sequence each => exact ⟨_, rfl, each⟩
    have yields := planItems_yields sound sized known (Within.sequence within) adds starts accepted
      given
    refine yields.mono ?_
    rintro value ⟨items, rfl, each⟩
    exact Conforms.sequence each

end Sequences

/-! ## Maps -/

theorem IsMap.insertKey {entry : Value → Prop} {held value : Value} {key : String}
    (isMap : IsMap entry held) (fits : entry value) : IsMap entry (held.insertKey key value) := by
  obtain ⟨entries, rfl, each⟩ := isMap
  refine ⟨Entries.insert key value entries, rfl, fun field member => ?_⟩
  rcases Entries.mem_insert member with rfl | member
  · exact fits
  · exact each field member

section Maps

variable (sound : Sound env root row recurse) {type : Option DictionaryType} {value : Target}
variable {target : Register} {steps : List Step}
include sound

theorem readGroup_yields {leaf : Leaf} {group : Namesakes} (isLeaf : value.leaf? = some leaf)
    (unclaimed : Unclaimed pass group.columns)
    (members : ∀ column ∈ group.columns, column ∈ env.header)
    (given : Gives (readGroup env leaf group) pass program next) :
    Yields row none input (env.FitsEntry value) program next := by
  obtain ⟨items, middle, reads, rest⟩ := readGroup_gives given
  have produces := readAll_produces sound unclaimed members reads
  rcases rest with ⟨rfl, rfl⟩ | packed
  · cases produces with
    | cons planned yields later =>
        cases later with
        | nil claims registers =>
            refine Yields.ofNew ((yields.later registers).mono fun item admits => ?_)
            exact FitsEntry.conforms (Conforms.leaf isLeaf admits)
  · refine pack_yields produces packed fun values holds => ?_
    have leaves : value.isLeaf = true := by rw [Target.isLeaf, isLeaf, Option.isSome_some]
    exact FitsEntry.several leaves fun item member =>
      Conforms.leaf isLeaf (each_of_forall₂ holds item member)

theorem insertGroups_keeps {leaf : Leaf} {groups : List Namesakes}
    (isLeaf : value.leaf? = some leaf) (inserts : insertItem type = Value.insertKey)
    (known : target < pass.nextRegister)
    (unclaimed : Unclaimed pass (groups.flatMap Namesakes.columns))
    (members : ∀ group ∈ groups, ∀ column ∈ group.columns, column ∈ env.header)
    (given : Gives (insertGroups env leaf type target groups) pass steps next) :
    Keeps row target (IsMap (env.FitsEntry value)) steps next := by
  induction groups generalizing pass steps with
  | nil =>
      obtain ⟨rfl, rfl⟩ := gives_pure.mp given
      exact Keeps.nil
  | cons group rest ih =>
      obtain ⟨item, middle, others, isRead, later, rfl⟩ := insertGroups_cons given
      rw [List.flatMap_cons] at unclaimed
      obtain ⟨planned, claiming⟩ := readGroup_planned unclaimed.left isRead
      have yields : Yields row none (fun _ => True) (env.FitsEntry value) item middle :=
        readGroup_yields sound isLeaf unclaimed.left (members group (by simp)) isRead
      have stillKnown := Nat.lt_of_lt_of_le known planned.block.onward.registers
      have adds : Keeps row target (IsMap (env.FitsEntry value))
          (item.steps ++ [.addEntry type target group.display item.result]) middle :=
        Keeps.added (fun held => held.insertKey group.display) planned yields known
            (fun registers => by rw [runStep, inserts])
          fun held value isMap fits => isMap.insertKey fits
      have keeps := ih stillKnown (unclaimed.right claiming)
        (fun other member => members other (by simp [member])) later
      have onward := (insertGroups_planned stillKnown (unclaimed.right claiming) later).onward
      have both := Keeps.append onward.registers adds keeps
      rw [List.append_assoc] at both
      exact both

theorem insertSegments_keeps {segments : List (String × String)}
    (sized : pass.claims.length = env.header.length) (within : env.Within root value)
    (inserts : insertItem type = Value.insertKey) (known : target < pass.nextRegister)
    (given : Gives (insertSegments env recurse site type value target segments) pass steps next) :
    Keeps row target (IsMap (env.FitsEntry value)) steps next := by
  induction segments generalizing pass steps with
  | nil =>
      obtain ⟨rfl, rfl⟩ := gives_pure.mp given
      exact Keeps.nil
  | cons head rest ih =>
      obtain ⟨segment, key⟩ := head
      obtain ⟨found, middle, others, member, later, rfl⟩ := insertSegments_cons given
      cases found with
      | none =>
          obtain rfl := sound.reliable.declines member
          exact ih sized known later
      | some item =>
          have first := sound.reliable.new sized rfl member
          have yields : Yields row none (fun _ => True) (env.Conforms value) item middle :=
            sound.new sized within rfl rfl member
          have stillSized := first.block.onward.length.trans sized
          have stillKnown := Nat.lt_of_lt_of_le known first.block.onward.registers
          have adds : Keeps row target (IsMap (env.FitsEntry value))
              (item.steps ++ [.addEntry type target key item.result]) middle :=
            Keeps.added (fun held => held.insertKey key) first yields known
              (fun registers => by rw [runStep, inserts])
              fun held value isMap conforms => isMap.insertKey (FitsEntry.conforms conforms)
          have onward := (insertSegments_planned sound.reliable stillSized stillKnown later).onward
          exact Keeps.append onward.registers adds (ih stillSized stillKnown later)

theorem planInserts_keeps (sized : pass.claims.length = env.header.length)
    (within : env.Within root value) (inserts : insertItem type = Value.insertKey)
    (known : target < pass.nextRegister)
    (given : Gives (planInserts env recurse site type value target) pass steps next) :
    Keeps row target (IsMap (env.FitsEntry value)) steps next := by
  rcases planInserts_gives given with ⟨leaf, isLeaf, given⟩ | ⟨-, given⟩
  · have unclaimed := Header.available_unclaimed site.scope sound.indexed sized
    have same : ((env.header.namesakes pass.claims site.scope).flatMap Namesakes.columns).Perm
        (env.header.available pass.claims site.scope) := Header.namesakes_perm
    refine insertGroups_keeps sound isLeaf inserts known (unclaimed.perm same) ?_ given
    intro group isGroup column member
    have available := same.mem_iff.mp (List.mem_flatMap.mpr ⟨group, isGroup, member⟩)
    exact (List.mem_filter.mp available).1
  · exact insertSegments_keeps sound sized within inserts known given

end Maps

section Dictionaries

variable (sound : Sound env root row recurse)
variable (sized : pass.claims.length = env.header.length)
variable (known : ∀ register, site.existing = some register → register < pass.nextRegister)
include sound sized known

theorem planEntries_yields {type : Option DictionaryType} {value : Target}
    (within : env.Within root value) (inserts : insertItem type = Value.insertKey)
    (starts : ∀ value, newMap type = .ok value → value = .map [])
    (accepted : ∀ held, (dictionaryExpectation type).accepts held = true → input held →
      IsMap (env.FitsEntry value) held)
    (given : Gives (planEntries env recurse site type value) pass (some program) next) :
    Yields row site.existing input (IsMap (env.FitsEntry value)) program next := by
  rcases planEntries_gives given with ⟨impossible, -⟩ | ⟨start, middle, steps, started, fills,
    same⟩
  · cases impossible
  cases same
  have created : Planned none pass
      (Program.single (.startMap type pass.nextRegister) pass.nextRegister) pass.advanced :=
    Planned.write (by rw [Step.paths]) (by rw [Step.columns]) (by rw [Step.registers])
  have begins := reuseOrCreate_planned known created started
  have creates : Yields row none input (IsMap (env.FitsEntry value))
      (Program.single (.startMap type pass.nextRegister) pass.nextRegister) pass.advanced := by
    refine Yields.outcome (newMap type) (fun registers => by rw [runStep]) rfl ?_
    intro held made
    exact ⟨[], starts held made, by simp⟩
  have stillSized := begins.block.onward.length.trans sized
  have onward := (planInserts_planned sound.indexed sound.reliable stillSized begins.below
    fills).onward
  exact Yields.filled onward.registers (reuseOrCreate_yields creates accepted started)
    (planInserts_keeps sound stillSized within inserts begins.below fills)

theorem planDictionary_yields (within : env.Within root site.target)
    (given : Gives (planDictionary env recurse site) pass (some program) next) :
    Yields row site.existing (env.Reusable site.target) (env.Conforms site.target) program
      next := by
  rcases planDictionary_gives given with ⟨impossible, -⟩ | ⟨value, isMap, given⟩ |
    ⟨type, isDictionary, given⟩
  · cases impossible
  · rw [isMap] at within ⊢
    have starts : ∀ value, newMap none = .ok value → value = .map [] := by
      intro value made
      cases made
      rfl
    have accepted : ∀ held, (dictionaryExpectation none).accepts held = true →
        env.Reusable (.map value) held → IsMap (env.FitsEntry value) held := by
      rintro held accepts (rfl | conforms)
      · cases accepts
      · cases conforms with
        | leaf isLeaf => cases isLeaf
        | map each => exact ⟨_, rfl, each⟩
    have yields := planEntries_yields sound sized known (Within.map within) rfl starts accepted
      given
    refine yields.mono ?_
    rintro held ⟨entries, rfl, each⟩
    exact Conforms.map each
  · rw [isDictionary] at within ⊢
    obtain ⟨inserts, seeds⟩ := sound.orderly.dictionaries type within
    have starts : ∀ value, newMap (some type) = .ok value → value = .map [] := by
      intro value made
      rw [newMap] at made
      cases seed : type.seed with
      | none =>
          rw [seed] at made
          cases made
      | some first =>
          rw [seed] at made
          obtain rfl : first = value := by simpa using made
          exact seeds first seed
    have puts : insertItem (some type) = Value.insertKey := by
      funext held key item
      rw [insertItem, inserts]
    have accepted : ∀ held, (dictionaryExpectation (some type)).accepts held = true →
        env.Reusable (.dictionary type) held → IsMap (env.FitsEntry type.value) held := by
      rintro held accepts (rfl | conforms)
      · cases accepts
      · cases conforms with
        | leaf isLeaf => cases isLeaf
        | dictionary each => exact ⟨_, rfl, each⟩
    have yields := planEntries_yields sound sized known (Within.dictionary within) puts starts
      accepted given
    refine yields.mono ?_
    rintro held ⟨entries, rfl, each⟩
    exact Conforms.dictionary each

end Dictionaries

end Planning

end Unflatten
