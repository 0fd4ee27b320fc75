import Unflatten.Proofs.Choice.AbstractTypes
import Unflatten.Proofs.Keys.Reach
import Unflatten.Proofs.MemberMaps.Contents
import Unflatten.Proofs.Nesting.Elements
import Unflatten.Proofs.Unplannable.Roots

/-!
# Columns that feed a target

A column feeds a target in a scope if the target has a place for it, down to a leaf. Whoever plans a
target that a free column feeds comes to a program and claims some column on the way: this one, or
another if an earlier part has claimed this one before. That no later part gives a claim back
carries the growth of one part over to the whole.
-/

set_option autoImplicit false

namespace Unflatten

/-! ## Growth -/

/-- A column has been claimed that was free before. -/
def Pass.Grows (pass next : Pass) : Prop :=
  ∃ index, pass.claims.isClaimed index = false ∧ next.claims.isClaimed index = true

namespace Pass.Grows

variable {pass between next : Pass}

theorem before (grows : between.Grows next) (onward : pass.Onward between) : pass.Grows next := by
  obtain ⟨index, free, claimed⟩ := grows
  refine ⟨index, Bool.eq_false_iff.mpr fun earlier => ?_, claimed⟩
  rw [onward.claims index earlier] at free
  cases free

theorem behind (grows : pass.Grows between) (onward : between.Onward next) : pass.Grows next := by
  obtain ⟨index, free, claimed⟩ := grows
  exact ⟨index, free, onward.claims index claimed⟩

theorem of_claims {again : Pass} (grows : pass.Grows between)
    (same : again.claims = between.claims) : pass.Grows again := by
  rwa [Grows, same]

end Pass.Grows

theorem Claiming.grows {columns : List HeaderColumn} {column : HeaderColumn} {pass next : Pass}
    (claiming : Claiming columns pass next) (unclaimed : Unclaimed pass columns)
    (member : column ∈ columns) : pass.Grows next :=
  ⟨column.index, unclaimed.free column member,
    (claiming.claims column.index).mpr (.inr (List.mem_map_of_mem member))⟩

theorem Planned.grows_iff {existing : Option Register} {pass next : Pass} {program : Program}
    (planned : Planned existing pass program next) :
    pass.Grows next ↔ stepsColumns program.steps ≠ [] := by
  constructor
  · rintro ⟨index, free, claimed⟩ none
    rcases (planned.block.columns index).mp claimed with earlier | isRead
    · rw [free] at earlier
      cases earlier
    · rw [none] at isRead
      cases isRead
  · intro some
    obtain ⟨index, isRead⟩ := List.exists_mem_of_ne_nil _ some
    exact ⟨index, planned.block.unclaimed index isRead,
      (planned.block.columns index).mpr (.inr isRead)⟩

/-- The column may still be claimed for the site. -/
structure Site.Awaits (env : Environment) (column : HeaderColumn) (site : Site) (pass : Pass) :
    Prop where
  known : ∀ register, site.existing = some register → register < pass.nextRegister
  sized : pass.claims.length = env.header.length
  isColumn : column ∈ env.header
  isFree : pass.claims.isClaimed column.index = false

namespace Site.Awaits

variable {env : Environment} {column : HeaderColumn} {site child : Site} {pass between next : Pass}

theorem new (awaits : site.Awaits env column pass) (isNew : child.existing = none) :
    child.Awaits env column pass :=
  ⟨by simp [isNew], awaits.sized, awaits.isColumn, awaits.isFree⟩

theorem offered (awaits : site.Awaits env column pass)
    (inScope : site.scope.contains column = true) :
    column ∈ env.header.available pass.claims site.scope :=
  (@View.mem_available_iff ⟨env.header, pass.claims, site.scope⟩ column).mpr
    ⟨awaits.isColumn, awaits.isFree, inScope⟩

theorem isPresent (awaits : site.Awaits env column pass)
    (inScope : site.scope.contains column = true) : site.IsPresent env pass :=
  .inr (List.ne_nil_of_mem (awaits.offered inScope))

theorem later (awaits : site.Awaits env column pass) (onward : pass.Onward next)
    (isFree : next.claims.isClaimed column.index = false) : site.Awaits env column next :=
  ⟨fun register isThere => Nat.lt_of_lt_of_le (awaits.known register isThere) onward.registers,
    onward.length.trans awaits.sized, awaits.isColumn, isFree⟩

theorem advanced (awaits : site.Awaits env column pass) : site.Awaits env column pass.advanced :=
  awaits.later Pass.Onward.advanced awaits.isFree

theorem grows_inTurn (awaits : site.Awaits env column pass) (first : pass.Onward between)
    (second : between.Onward next)
    (turn : pass.Grows between ∨ (site.Awaits env column between → between.Grows next)) :
    pass.Grows next := by
  rcases turn with grows | grows
  · exact grows.behind second
  · cases claimed : between.claims.isClaimed column.index with
    | true =>
        exact Pass.Grows.behind ⟨column.index, awaits.isFree, claimed⟩ second
    | false => exact (grows (awaits.later first claimed)).before first

end Site.Awaits

/-! ## Food -/

/-- A sequence of such elements, which may be started anew. -/
inductive Target.IsSequenceOf : Target → Target → Prop where
  | list {element : Target} : IsSequenceOf (.list element) element
  | sequence {type : SequenceType} (starts : type.seed.isSome = true) :
      IsSequenceOf (.sequence type) type.element

/-- A map to such values, which may be started anew. -/
inductive Target.IsDictionaryOf : Target → Target → Prop where
  | map {value : Target} : IsDictionaryOf (.map value) value
  | dictionary {type : DictionaryType} (starts : type.seed.isSome = true) :
      IsDictionaryOf (.dictionary type) type.value

namespace Environment

open Planning

/-- Instances come from a constructor that is chosen for the columns, and there is a leaf among the
parameters of each that may be chosen. -/
structure NeedsLeaf (env : Environment) (type : ObjectType) (factory : Option Factory) : Prop where
  unmade : factoryFor env type factory = none
  unpreferred : (env.settings.ofType? type.name).bind TypePolicy.preferred = none
  leaves : ∀ constructor ∈ type.constructors, constructor.isPublic = true →
    constructor.isStatic = false →
    ∃ parameter ∈ constructor.parameters, parameter.target.isLeaf = true

/-- The target, in which a reference is resolved, has a place for the column. An instance has one in
a property, or has to be constructed from a column whatever it is. -/
inductive Feeds (env : Environment) (column : HeaderColumn) : Target → Scope → Prop where
  | leaf {target : Target} {scope : Scope} (isLeaf : target.isLeaf = true)
      (inScope : scope.contains column = true) : Feeds env column target scope
  | slot {slots : List Target} {slot : Target} {scope : Scope}
      (plannable : (Target.tuple slots).isPlannable = true) (isSlot : slot ∈ slots)
      (feeds : Feeds env column (slot.resolve env.bindings) scope) :
      Feeds env column (.tuple slots) scope
  | array {element : Target} {scope : Scope}
      (feeds : Feeds env column (element.resolve env.bindings) scope) :
      Feeds env column (.array element) scope
  | element {target element : Target} {scope : Scope} (isSequence : target.IsSequenceOf element)
      (feeds : Feeds env column (element.resolve env.bindings) scope) :
      Feeds env column target scope
  | leafEntry {target value : Target} {scope : Scope} (isDictionary : target.IsDictionaryOf value)
      (isLeaf : value.isLeaf = true) (inScope : scope.contains column = true) :
      Feeds env column target scope
  | entry {target value : Target} {scope : Scope} {segment spelling : String}
      (isDictionary : target.IsDictionaryOf value) (isNested : value.isLeaf = false)
      (inScope : scope.contains column = true)
      (separated : (foldName env.settings.separator).isEmpty = false)
      (isSegment : Header.segment? scope (foldName env.settings.separator) column =
        some (segment, spelling))
      (feeds : Feeds env column (value.resolve env.bindings)
        (scope.member segment env.settings.separator)) :
      Feeds env column target scope
  | property {declared : ObjectType} {asked : ObjectType × Option Factory} {property : Property}
      {leaf : Leaf} {scope : Scope}
      (isAsked : asked ∈ declared.asksFor (env.settings.ofType? declared.name))
      (isProperty : property ∈ plainProperties asked.1)
      (isTyped : (property.target.leaf?.filter fun leaf => !leaf.isAny) = some leaf)
      (inScope : scope.contains column = true)
      (bears : scope.nameWithin column = foldName property.name) :
      Feeds env column (.object declared) scope
  | member {declared : ObjectType} {asked : ObjectType × Option Factory} {property : Property}
      {scope : Scope}
      (isAsked : asked ∈ declared.asksFor (env.settings.ofType? declared.name))
      (isProperty : property ∈ plainProperties asked.1)
      (isMember : (property.target.leaf?.filter fun leaf => !leaf.isAny) = none)
      (inScope : scope.contains column = true)
      (feeds : Feeds env column (property.target.resolve env.bindings)
        (scope.member property.name env.settings.separator)) :
      Feeds env column (.object declared) scope
  | sink {declared : ObjectType} {asked : ObjectType × Option Factory} {property : Property}
      {scope : Scope}
      (isAsked : asked ∈ declared.asksFor (env.settings.ofType? declared.name))
      (isProperty : property ∈ sinkProperties asked.1) (inScope : scope.contains column = true)
      (unnamed : column.folded = foldName env.settings.sentinel)
      (feeds : ∀ indices, column.index ∈ indices →
        Feeds env column (property.target.resolve env.bindings) (.among indices)) :
      Feeds env column (.object declared) scope
  | argument {declared : ObjectType} {asked : ObjectType × Option Factory} {scope : Scope}
      (isAsked : asked ∈ declared.asksFor (env.settings.ofType? declared.name))
      (needs : env.NeedsLeaf asked.1 asked.2) (inScope : scope.contains column = true) :
      Feeds env column (.object declared) scope

namespace Feeds

variable {env : Environment} {column : HeaderColumn} {target : Target} {scope : Scope}

theorem inScope (feeds : env.Feeds column target scope) : scope.contains column = true := by
  induction feeds with
  | leaf _ inScope => exact inScope
  | slot _ _ _ ih => exact ih
  | array _ ih => exact ih
  | element _ _ ih => exact ih
  | leafEntry _ _ inScope => exact inScope
  | entry _ _ inScope => exact inScope
  | property _ _ _ inScope => exact inScope
  | member _ _ _ inScope => exact inScope
  | sink _ _ inScope => exact inScope
  | argument _ _ inScope => exact inScope

theorem isPlannable (feeds : env.Feeds column target scope) :
    target.isPlannable = true ∧ target.isStartable = true := by
  cases feeds with
  | leaf isLeaf =>
      cases target with
      | scalar | enum | any | dynamic => exact ⟨rfl, rfl⟩
      | nullable inner =>
          refine ⟨?_, rfl⟩
          rw [Target.isLeaf, Target.leaf?] at isLeaf
          rw [Target.isPlannable, Target.isLeaf]
          cases found : inner.leaf? with
          | none =>
              rw [found] at isLeaf
              exact isLeaf
          | some _ => rfl
      | _ => cases isLeaf
  | slot plannable => exact ⟨plannable, rfl⟩
  | array => exact ⟨rfl, rfl⟩
  | element isSequence =>
      cases isSequence with
      | list => exact ⟨rfl, rfl⟩
      | sequence starts => exact ⟨rfl, starts⟩
  | leafEntry isDictionary | entry isDictionary =>
      cases isDictionary with
      | map => exact ⟨rfl, rfl⟩
      | dictionary starts => exact ⟨rfl, starts⟩
  | property | member | sink | argument => exact ⟨rfl, rfl⟩

theorem of_tuple {slots : List Target} (feeds : env.Feeds column (.tuple slots) scope) :
    ∃ slot ∈ slots, env.Feeds column (slot.resolve env.bindings) scope := by
  cases feeds with
  | leaf isLeaf => cases isLeaf
  | slot _ isSlot feeds => exact ⟨_, isSlot, feeds⟩
  | element isSequence => cases isSequence
  | leafEntry isDictionary | entry isDictionary => cases isDictionary

theorem of_array {element : Target} (feeds : env.Feeds column (.array element) scope) :
    env.Feeds column (element.resolve env.bindings) scope := by
  cases feeds with
  | leaf isLeaf => cases isLeaf
  | array feeds => exact feeds
  | element isSequence => cases isSequence
  | leafEntry isDictionary | entry isDictionary => cases isDictionary

theorem of_list {element : Target} (feeds : env.Feeds column (.list element) scope) :
    env.Feeds column (element.resolve env.bindings) scope := by
  cases feeds with
  | leaf isLeaf => cases isLeaf
  | element isSequence feeds =>
      cases isSequence
      exact feeds
  | leafEntry isDictionary | entry isDictionary => cases isDictionary

theorem of_sequence {type : SequenceType} (feeds : env.Feeds column (.sequence type) scope) :
    env.Feeds column (type.element.resolve env.bindings) scope := by
  cases feeds with
  | leaf isLeaf => cases isLeaf
  | element isSequence feeds =>
      cases isSequence
      exact feeds
  | leafEntry isDictionary | entry isDictionary => cases isDictionary

/-- What feeds a map to such values. -/
def InEntries (env : Environment) (column : HeaderColumn) (value : Target) (scope : Scope) : Prop :=
  value.isLeaf = true ∨ value.isLeaf = false ∧
    (foldName env.settings.separator).isEmpty = false ∧
    ∃ segment spelling,
      Header.segment? scope (foldName env.settings.separator) column = some (segment, spelling) ∧
      env.Feeds column (value.resolve env.bindings)
        (scope.member segment env.settings.separator)

theorem of_map {value : Target} (feeds : env.Feeds column (.map value) scope) :
    InEntries env column value scope := by
  cases feeds with
  | leaf isLeaf => cases isLeaf
  | element isSequence => cases isSequence
  | leafEntry isDictionary isLeaf =>
      cases isDictionary
      exact .inl isLeaf
  | entry isDictionary isNested _ separated isSegment feeds =>
      cases isDictionary
      exact .inr ⟨isNested, separated, _, _, isSegment, feeds⟩

theorem of_dictionary {type : DictionaryType} (feeds : env.Feeds column (.dictionary type) scope) :
    InEntries env column type.value scope := by
  cases feeds with
  | leaf isLeaf => cases isLeaf
  | element isSequence => cases isSequence
  | leafEntry isDictionary isLeaf =>
      cases isDictionary
      exact .inl isLeaf
  | entry isDictionary isNested _ separated isSegment feeds =>
      cases isDictionary
      exact .inr ⟨isNested, separated, _, _, isSegment, feeds⟩

end Feeds

end Environment

namespace Header

variable {segments : List (String × String)} {entry : String × String}

theorem addSegment_has : ∃ spelling, (entry.1, spelling) ∈ addSegment segments entry := by
  unfold addSegment
  split
  · rename_i known
    obtain ⟨earlier, member, same⟩ := List.any_eq_true.mp known
    rw [beq_iff_eq] at same
    exact ⟨earlier.2, same ▸ member⟩
  · exact ⟨entry.2, by simp⟩

theorem addSegment_keeps {other : String × String} (member : other ∈ segments) :
    other ∈ addSegment segments entry := by
  unfold addSegment
  split
  · exact member
  · exact List.mem_append_left _ member

theorem foldl_addSegment_keeps {other : String × String} (added : List (String × String))
    (member : other ∈ segments) : other ∈ added.foldl addSegment segments := by
  induction added generalizing segments with
  | nil => exact member
  | cons first rest ih => exact ih (addSegment_keeps member)

theorem memberNames_has {header : Header} {claims : Claims} {scope : Scope} {separator : String}
    {column : HeaderColumn} (offered : column ∈ header.available claims scope)
    (separated : (foldName separator).isEmpty = false)
    (isSegment : segment? scope (foldName separator) column = some entry) :
    ∃ spelling, (entry.1, spelling) ∈ header.memberNames claims scope separator := by
  have found : entry ∈ (header.available claims scope).filterMap
      (segment? scope (foldName separator)) :=
    List.mem_filterMap.mpr ⟨column, offered, isSegment⟩
  obtain ⟨before, after, split⟩ := List.append_of_mem found
  unfold memberNames
  dsimp only
  rw [separated, if_neg (by simp), split, List.foldl_append, List.foldl_cons]
  obtain ⟨spelling, isThere⟩ := @addSegment_has (before.foldl addSegment []) entry
  exact ⟨spelling, foldl_addSegment_keeps after isThere⟩

end Header

namespace Planning

variable {env : Environment} {column : HeaderColumn} {recurse : Planner} {site : Site}
variable {pass next : Pass} {program : Program} {result : Option Program}

/-- Sites below the root that the column feeds are not declined, and some column is claimed for
them. -/
def Diligent (env : Environment) (column : HeaderColumn) (recurse : Planner) : Prop :=
  ∀ {site : Site} {pass next : Pass} {result : Option Program}, site.isRoot = false →
    env.Feeds column site.target site.scope → site.Awaits env column pass →
    Gives (recurse site) pass result next →
    (∃ program, result = some program) ∧ pass.Grows next

/-! ## Leaves -/

section Leaves

variable (indexed : env.header.WellIndexed) (awaits : site.Awaits env column pass)
variable (isNested : site.isRoot = false)
include indexed awaits isNested

theorem planUntyped_grows (inScope : site.scope.contains column = true)
    (given : Gives (planUntyped env site) pass (some program) next) : pass.Grows next := by
  have offered := awaits.offered inScope
  have unclaimed := Header.available_unclaimed site.scope indexed awaits.sized
  unfold planUntyped at given
  rw [isNested] at given
  split at given
  · cases (gives_pure.mp given).1
  · split at given
    · cases (gives_pure.mp given).1
    · simp only [Bool.false_eq_true, if_false, gives_bind, gives_available] at given
      obtain ⟨columns, between, ⟨rfl, rfl⟩, given⟩ := given
      split at given
      · rename_i none
        rw [none] at offered
        cases offered
      · rename_i one only
        obtain ⟨read, -, reads⟩ := gives_planned.mp given
        rw [only] at offered unclaimed
        exact (read_planned unclaimed reads).2.grows unclaimed offered
      · obtain ⟨items, middle, reads, given⟩ := gives_bind.mp given
        obtain ⟨packed, -, packs⟩ := gives_planned.mp given
        have grows := (readAll_planned unclaimed reads).2.grows unclaimed offered
        exact grows.of_claims (by rw [(gives_pack.mp packs).2, Pass.advanced])

theorem planLeaf_grows (given : Gives (planLeaf env site) pass (some program) next) :
    pass.Grows next := by
  rcases planLeaf_gives given with ⟨impossible, -⟩ | ⟨_, leaf, -, -, ways⟩
  · cases impossible
  have unclaimed := Header.available_unclaimed site.scope indexed awaits.sized
  rcases ways with ⟨first, isFirst, reads⟩ | ⟨isRoot, -⟩
  · have single := unclaimed.single (List.mem_of_head? isFirst)
    exact (read_planned single reads).2.grows single (List.mem_singleton.mpr rfl)
  · cases isNested.symm.trans isRoot

end Leaves

/-! ## Containers -/

section Containers

variable (indexed : env.header.WellIndexed) (reliable : Reliable env recurse)
variable (diligent : Diligent env column recurse)

include reliable diligent in
theorem planSlots_grows {slots : List Target} {slot : Target} {items : List Program}
    (isSlot : slot ∈ slots) (feeds : env.Feeds column (slot.resolve env.bindings) site.scope)
    (awaits : site.Awaits env column pass)
    (given : Gives (planSlots env recurse site slots) pass items next) : pass.Grows next := by
  induction slots generalizing pass items with
  | nil => cases isSlot
  | cons target rest ih =>
      obtain ⟨first, middle, others, way, later, rfl⟩ := planSlots_cons given
      have planned : Planned none pass first middle := by
        rcases way with slot | ⟨between, declined, default⟩
        · exact reliable.new awaits.sized rfl slot
        · obtain rfl := reliable.declines declined
          exact constant_planned default
      have onward := planned.block.onward
      have rest := planSlots_planned reliable (onward.length.trans awaits.sized) later
      refine awaits.grows_inTurn onward rest.block.onward ?_
      rcases List.mem_cons.mp isSlot with rfl | isRest
      · left
        have slotAwaits : (site.slot env slot).Awaits env column pass := awaits.new rfl
        rcases way with planned | ⟨between, declined, -⟩
        · exact (diligent rfl feeds slotAwaits planned).2
        · obtain ⟨_, impossible⟩ := (diligent rfl feeds slotAwaits declined).1
          cases impossible
      · exact .inr fun still => ih isRest still later

include reliable diligent in
theorem planTuple_grows (feeds : env.Feeds column site.target site.scope)
    (awaits : site.Awaits env column pass)
    (given : Gives (planTuple env recurse site) pass (some program) next) : pass.Grows next := by
  rcases planTuple_gives given with ⟨impossible, -⟩ |
    ⟨_, slots, items, middle, -, isTuple, planned, packs⟩
  · cases impossible
  rw [isTuple] at feeds
  obtain ⟨slot, isSlot, feeds⟩ := feeds.of_tuple
  have grows := planSlots_grows reliable diligent isSlot feeds awaits planned
  exact grows.of_claims (by rw [(gives_pack.mp packs).2, Pass.advanced])

/-- The first element takes a column, so it is kept. -/
theorem repeatElement_grows {element : Target} {limit : Nat} {items : List Program}
    (reliable : Reliable env recurse) (diligent : Diligent env column recurse)
    (feeds : env.Feeds column (element.resolve env.bindings) site.scope)
    (awaits : site.Awaits env column pass)
    (given : Gives (repeatElement env recurse site element (limit + 1)) pass items next) :
    pass.Grows next := by
  have elementAwaits : (site.element env element).Awaits env column pass := awaits.new rfl
  rcases repeatElement_succ given with ⟨rfl, found, middle, planned, -⟩ |
    ⟨item, middle, planned, -, rest⟩
  · obtain ⟨⟨item, rfl⟩, grows⟩ := diligent rfl feeds elementAwaits planned
    have onward := (reliable.new awaits.sized rfl planned).block.onward
    obtain ⟨index, free, claimed⟩ := grows
    have more := (Claims.count_lt_iff onward.length onward.claims).mpr ⟨index, claimed, free⟩
    have kept := (repeatElement_kept planned more).symm.trans given
    have isEmpty := congrArg Prod.fst kept
    dsimp only at isEmpty
    cases others : (repeatElement env recurse site element limit middle).1 with
    | ok others => simp [others, behind] at isEmpty
    | error failure => simp [others, behind] at isEmpty
  · have grows := (diligent rfl feeds elementAwaits planned).2
    have sized := (reliable.new awaits.sized rfl planned).block.onward.length.trans awaits.sized
    rcases rest with ⟨others, more, -⟩ | ⟨failure, failed, -⟩
    · exact grows.behind (repeatElement_planned reliable sized more).block.onward
    · exact grows.of_claims (repeatElement_fails failed)

include indexed reliable diligent

theorem planElements_grows {element : Target} {items : List Program}
    (feeds : env.Feeds column (element.resolve env.bindings) site.scope)
    (awaits : site.Awaits env column pass)
    (given : Gives (planElements env recurse site element) pass items next) : pass.Grows next := by
  rcases planElements_gives given with ⟨leaf, -, reads⟩ | ⟨-, repeats⟩
  · have unclaimed := Header.available_unclaimed site.scope indexed awaits.sized
    exact (readAll_planned unclaimed reads).2.grows unclaimed (awaits.offered feeds.inScope)
  · exact repeatElement_grows reliable diligent feeds awaits repeats

theorem planItems_grows {type : Option SequenceType} {element : Target}
    (feeds : env.Feeds column (element.resolve env.bindings) site.scope)
    (awaits : site.Awaits env column pass)
    (given : Gives (planItems env recurse site type element) pass (some program) next) :
    pass.Grows next := by
  rcases planItems_gives given with ⟨impossible, -⟩ | ⟨start, middle, items, starts, elements, -⟩
  · cases impossible
  rcases reuseOrCreate_gives starts with ⟨-, -, rfl⟩ | ⟨_, -, rfl, -⟩
  · have grows := planElements_grows indexed reliable diligent feeds awaits.advanced elements
    exact grows.before Pass.Onward.advanced
  · have grows := planElements_grows indexed reliable diligent feeds awaits.advanced.advanced
      elements
    exact grows.before (Pass.Onward.advanced.trans Pass.Onward.advanced)

theorem planSequence_grows (feeds : env.Feeds column site.target site.scope)
    (awaits : site.Awaits env column pass)
    (given : Gives (planSequence env recurse site) pass (some program) next) :
    pass.Grows next := by
  rcases planSequence_gives given with ⟨impossible, -⟩ | ⟨element, isList, given⟩ |
    ⟨type, isSequence, given⟩
  · cases impossible
  · rw [isList] at feeds
    exact planItems_grows indexed reliable diligent feeds.of_list awaits given
  · rw [isSequence] at feeds
    exact planItems_grows indexed reliable diligent feeds.of_sequence awaits given

theorem planArray_grows (feeds : env.Feeds column site.target site.scope)
    (awaits : site.Awaits env column pass)
    (given : Gives (planArray env recurse site) pass (some program) next) : pass.Grows next := by
  rcases planArray_gives given with ⟨impossible, -⟩ |
    ⟨_, element, items, middle, -, isArray, way, packs⟩
  · cases impossible
  rw [isArray] at feeds
  have elementAwaits : (site.element env element).Awaits env column pass := awaits.new rfl
  have grows : pass.Grows middle := by
    rcases way with ⟨-, elements⟩ | ⟨item, planned, -⟩ | ⟨declined, -⟩
    · exact planElements_grows indexed reliable diligent feeds.of_array awaits elements
    · exact (diligent rfl feeds.of_array elementAwaits planned).2
    · obtain ⟨_, impossible⟩ := (diligent rfl feeds.of_array elementAwaits declined).1
      cases impossible
  exact grows.of_claims (by rw [(gives_pack.mp packs).2, Pass.advanced])

omit indexed in
theorem insertSegments_grows {type : Option DictionaryType} {value : Target} {target : Register}
    {segments : List (String × String)} {segment spelling : String} {steps : List Step}
    (isSegment : (segment, spelling) ∈ segments)
    (feeds : env.Feeds column (value.resolve env.bindings)
      (site.scope.member segment env.settings.separator))
    (awaits : site.Awaits env column pass) (known : target < pass.nextRegister)
    (given : Gives (insertSegments env recurse site type value target segments) pass steps next) :
    pass.Grows next := by
  induction segments generalizing pass steps with
  | nil => cases isSegment
  | cons head rest ih =>
      obtain ⟨found, middle, others, planned, later, -⟩ := insertSegments_cons given
      have onward : pass.Onward middle := by
        cases found with
        | none =>
            obtain rfl := reliable.declines planned
            exact Pass.Onward.refl
        | some item => exact (reliable.new awaits.sized rfl planned).block.onward
      have stillKnown := Nat.lt_of_lt_of_le known onward.registers
      have rest := insertSegments_planned reliable (onward.length.trans awaits.sized) stillKnown
        later
      refine awaits.grows_inTurn onward rest.onward ?_
      rcases List.mem_cons.mp isSegment with rfl | isRest
      · have memberAwaits : (site.member env segment value none).Awaits env column pass :=
          awaits.new rfl
        exact .inl (diligent rfl feeds memberAwaits planned).2
      · exact .inr fun still => ih isRest still stillKnown later

theorem planEntries_grows {type : Option DictionaryType} {value : Target}
    (feeds : Environment.Feeds.InEntries env column value site.scope)
    (inScope : site.scope.contains column = true) (awaits : site.Awaits env column pass)
    (given : Gives (planEntries env recurse site type value) pass (some program) next) :
    pass.Grows next := by
  rcases planEntries_gives given with ⟨impossible, -⟩ | ⟨start, middle, steps, starts, inserts, -⟩
  · cases impossible
  have created : Planned none pass
      (Program.single (.startMap type pass.nextRegister) pass.nextRegister) pass.advanced :=
    Planned.write (by rw [Step.paths]) (by rw [Step.columns]) (by rw [Step.registers])
  have started := reuseOrCreate_planned awaits.known created starts
  have same : middle.claims = pass.claims := by
    rcases reuseOrCreate_gives starts with ⟨-, -, rfl⟩ | ⟨_, -, rfl, -⟩
    · rfl
    · rfl
  have still : site.Awaits env column middle :=
    awaits.later started.block.onward (by rw [same]; exact awaits.isFree)
  have offered := still.offered inScope
  refine Pass.Grows.before ?_ started.block.onward
  rcases planInserts_gives inserts with ⟨leaf, -, inserts⟩ | ⟨notLeaf, inserts⟩
  · have unclaimed := Header.available_unclaimed site.scope indexed still.sized
    have groups := unclaimed.perm Header.namesakes_perm
    exact (insertGroups_claiming groups inserts).grows groups
      (Header.namesakes_perm.mem_iff.mpr offered)
  · rcases feeds with isLeaf | ⟨-, separated, segment, spelling, isSegment, feeds⟩
    · rw [Target.isLeaf, notLeaf] at isLeaf
      cases isLeaf
    · obtain ⟨other, isListed⟩ := Header.memberNames_has offered separated isSegment
      exact insertSegments_grows reliable diligent isListed feeds still started.below inserts

theorem planDictionary_grows (feeds : env.Feeds column site.target site.scope)
    (awaits : site.Awaits env column pass)
    (given : Gives (planDictionary env recurse site) pass (some program) next) :
    pass.Grows next := by
  have inScope := feeds.inScope
  rcases planDictionary_gives given with ⟨impossible, -⟩ | ⟨value, isMap, given⟩ |
    ⟨type, isDictionary, given⟩
  · cases impossible
  · rw [isMap] at feeds
    exact planEntries_grows indexed reliable diligent feeds.of_map inScope awaits given
  · rw [isDictionary] at feeds
    exact planEntries_grows indexed reliable diligent feeds.of_dictionary inScope awaits given

end Containers

end Planning

end Unflatten
