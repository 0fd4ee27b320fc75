import Unflatten.Proofs.MemberMaps.Properties
import Unflatten.Proofs.Reordering.Columns
import Unflatten.Proofs.Unplannable.Roots
import Unflatten.Proofs.Updates.Accumulation
import Unflatten.Proofs.Updates.Starts

/-!
# Sinks

A sink has its turn when the arguments of the constructor and all other properties have had theirs,
and sees nothing but the columns without a name. If no other name can claim these, they all end up
in the sink. If there are none, the sink keeps what the constructor has left in it. This is its
default unless the constructor has a body of its own or a parameter that is called like the sink.
-/

set_option autoImplicit false

namespace Unflatten

open Planning

/-! ## Columns without a name -/

/-- A list or an array of leaves. -/
inductive Target.IsSeries (leaf : Leaf) : Target → SequenceForm → Prop where
  | list {element : Target} (isLeaf : element.leaf? = some leaf) : IsSeries leaf (.list element) .list
  | array {element : Target} (isLeaf : element.leaf? = some leaf) :
      IsSeries leaf (.array element) .array

namespace Target.IsSeries

variable {leaf : Leaf} {target : Target} {form : SequenceForm}

theorem resolve (isSeries : target.IsSeries leaf form) (bindings : Bindings) :
    target.resolve bindings = target := by
  cases isSeries with
  | list => rfl
  | array => rfl

theorem isPlannable (isSeries : target.IsSeries leaf form) : target.isPlannable = true := by
  cases isSeries with
  | list => rfl
  | array => rfl

theorem isStartable (isSeries : target.IsSeries leaf form) : target.isStartable = true := by
  cases isSeries with
  | list => rfl
  | array => rfl

end Target.IsSeries

/-- A member of the name sees no column without a name. -/
def Settings.SparesMark (settings : Settings) (name : String) : Prop :=
  foldName settings.sentinel ≠ foldName name ∧
    Text.startsWith (foldName settings.sentinel)
      (foldName name ++ foldName settings.separator) = false

instance Settings.SparesMark.decidable (settings : Settings) (name : String) :
    Decidable (settings.SparesMark name) :=
  inferInstanceAs (Decidable (_ ∧ _))

namespace Header

def unnamed (header : Header) (settings : Settings) : List HeaderColumn :=
  header.filter fun column => column.folded == foldName settings.sentinel

variable {header : Header} {settings : Settings} {claims : Claims} {column : HeaderColumn}

theorem mem_unnamed :
    column ∈ header.unnamed settings ↔
      column ∈ header ∧ column.folded = foldName settings.sentinel := by
  rw [unnamed, List.mem_filter, beq_iff_eq]

section Free

variable (free : ∀ column ∈ header.unnamed settings, claims.isClaimed column.index = false)
include free

theorem nameless_free :
    header.nameless claims .root settings.sentinel =
      (header.unnamed settings).map HeaderColumn.index := by
  rw [nameless, available, List.filter_filter, unnamed]
  refine congrArg (List.map HeaderColumn.index) (List.filter_congr fun column member => ?_)
  cases named : column.folded == foldName settings.sentinel with
  | false => rw [Bool.false_and]
  | true =>
      rw [free column (List.mem_filter.mpr ⟨member, named⟩), Scope.root_contains]
      rfl

theorem available_nameless (indexed : header.WellIndexed) :
    header.available claims (.among (header.nameless claims .root settings.sentinel)) =
      header.unnamed settings := by
  refine List.filter_congr fun column member => Bool.eq_iff_iff.mpr ?_
  rw [Bool.and_eq_true, Scope.among_contains, mem_nameless indexed member, beq_iff_eq]
  constructor
  · exact fun ⟨_, _, named⟩ => named
  · intro named
    have isFree : (!claims.isClaimed column.index) = true := by
      rw [free column (mem_unnamed.mpr ⟨member, named⟩)]
      rfl
    refine ⟨isFree, List.mem_filter.mpr ⟨member, ?_⟩, named⟩
    rw [isFree, Scope.root_contains]
    rfl

end Free

end Header

section Spared

variable {settings : Settings} {column : HeaderColumn}
variable (named : column.folded = foldName settings.sentinel)
include named

theorem Settings.SparesMark.uncovered {name : String} (spares : settings.SparesMark name) :
    ¬ (Scope.root.member name settings.separator).Covers column := by
  rw [Scope.root_member_covers, named]
  rintro (same | starts)
  · exact spares.1 same
  · rw [spares.2] at starts
    cases starts

theorem Settings.SparesMark.spares {parameter : Parameter}
    (spares : settings.SparesMark parameter.name) (notSink : parameter.isSink = false) :
    parameter.Spares settings column := by
  refine ⟨named ▸ spares.1, fun _ => named ▸ spares.2, fun isSink => ?_⟩
  rw [notSink] at isSink
  cases isSink

end Spared

/-- The sink is the only one of the type and holds a series of the leaf. Neither another property
that is set nor a parameter of the constructor can claim a column without a name. -/
structure ObjectTypeOf.DrainsInto (type : ObjectType) (settings : Settings)
    (constructor : Constructor) (sink : Property) (leaf : Leaf) (form : SequenceForm) : Prop where
  only : sinkProperties type = [sink]
  isSeries : sink.target.IsSeries leaf form
  properties : ∀ property ∈ plainProperties type, settings.SparesMark property.name
  parameters : ∀ parameter ∈ constructor.parameters,
    parameter.isSink = false ∧ settings.SparesMark parameter.name

/-! ## Cells in a series -/

namespace Planning

variable {env : Environment} {recurse : Planner} {row : Row} {site : Site} {pass next : Pass}
variable {program : Program} {leaf : Leaf} {form : SequenceForm} {element : Target}
variable {input : Value → Prop} {levels : Nat}

/-- The value is the series of the cells of the columns, one for each and in their order. -/
def SeriesOf (env : Environment) (row : Row) (leaf : Leaf) (form : SequenceForm)
    (columns : List HeaderColumn) (value : Value) : Prop :=
  ∃ cells, List.Forall₂ (fun column cell => cellOf env row column leaf = .ok cell) columns cells ∧
    value = .sequence form cells

theorem seriesOf_outputs {columns : List HeaderColumn} {cells : List Value}
    (outputs : List.Forall₂ (fun output value => output value)
      (columns.map fun column cell => cellOf env row column leaf = .ok cell) cells) :
    SeriesOf env row leaf form columns (.sequence form cells) :=
  ⟨cells, List.forall₂_map_left_iff.mp outputs, rfl⟩

theorem planArray_leaves (isArray : site.target = .array element) (isLeaf : element.isLeaf = true)
    (given : Gives (planArray env recurse site) pass (some program) next) :
    ∃ items middle, Gives (planElements env recurse site element) pass items middle ∧
      Gives (pack .array items) middle program next := by
  unfold planArray at given
  rw [isArray, gives_bind] at given
  obtain ⟨absent, between, found, given⟩ := given
  obtain ⟨-, rfl⟩ := gives_isAbsent.mp found
  rw [if_pos isLeaf] at given
  split at given
  · cases (gives_pure.mp given).1
  · obtain ⟨items, middle, elements, packed⟩ := gives_bind.mp given
    obtain ⟨_, same, packs⟩ := gives_planned.mp packed
    cases same
    exact ⟨items, middle, elements, packs⟩

section Series

variable (indexed : env.header.WellIndexed) (sized : pass.claims.length = env.header.length)
include indexed sized

theorem planElements_cells {items : List Program} (isLeaf : element.leaf? = some leaf)
    (given : Gives (planElements env recurse site element) pass items next) :
    Produces row pass items
      ((env.header.available pass.claims site.scope).map fun column cell =>
        cellOf env row column leaf = .ok cell) next := by
  rcases planElements_gives given with ⟨other, isOther, reads⟩ | ⟨noLeaf, -⟩
  · cases isLeaf.symm.trans isOther
    exact readAll_cells (Header.available_unclaimed site.scope indexed sized) reads
  · cases isLeaf.symm.trans noLeaf

theorem planArray_series (isArray : site.target = .array element)
    (isLeaf : element.leaf? = some leaf)
    (given : Gives (planArray env recurse site) pass (some program) next) :
    Yields row none input
      (SeriesOf env row leaf .array (env.header.available pass.claims site.scope)) program next := by
  have someLeaf : element.isLeaf = true := by
    rw [Target.isLeaf, isLeaf]
    rfl
  obtain ⟨items, middle, elements, packs⟩ := planArray_leaves isArray someLeaf given
  exact pack_yields (planElements_cells indexed sized isLeaf elements) packs
    fun cells outputs => seriesOf_outputs outputs

/-- A new list starts empty, so it holds no items but the cells. -/
theorem planItems_series (isNew : site.existing = none) (isLeaf : element.leaf? = some leaf)
    (given : Gives (planItems env recurse site none element) pass (some program) next) :
    Yields row none input
      (SeriesOf env row leaf .list (env.header.available pass.claims site.scope)) program next := by
  rcases planItems_gives given with ⟨impossible, -⟩ | ⟨start, middle, items, started, elements,
    same⟩
  · cases impossible
  cases same
  rcases reuseOrCreate_gives started with ⟨-, rfl, rfl⟩ | ⟨_, isThere, -⟩
  · have starts : Yields row none input (fun held => held = .sequence .list [])
        (Program.single (.startSequence none pass.nextRegister) pass.nextRegister)
        pass.advanced := by
      refine Yields.outcome (newSequence none) (fun registers => by rw [runStep]) rfl ?_
      intro value made
      cases made
      rfl
    have sizedHere : pass.advanced.claims.length = env.header.length := sized
    have produces : Produces row _ items _ next :=
      planElements_cells indexed sizedHere isLeaf elements
    refine (Yields.brought produces.toItems.registers starts
      (appendSteps_collects rfl produces (Nat.lt_succ_self _) [])).mono ?_
    rintro _ ⟨cells, outputs, rfl⟩
    exact seriesOf_outputs outputs
  · rw [isNew] at isThere
    cases isThere

theorem standard_series (isSeries : site.target.IsSeries leaf form) (isNew : site.existing = none)
    (given : Gives (standard env levels site) pass (some program) next) :
    Yields row none input
      (SeriesOf env row leaf form (env.header.available pass.claims site.scope)) program next := by
  generalize isTarget : site.target = target at isSeries
  cases isSeries with
  | @list element isLeaf =>
      obtain ⟨below, ⟨other, isList, items⟩ | ⟨value, isMap, -⟩⟩ :=
        standard_container (Or.inl ⟨element, isTarget⟩) given
      · cases isTarget.symm.trans isList
        exact planItems_series indexed sized isNew isLeaf items
      · cases isTarget.symm.trans isMap
  | array isLeaf =>
      obtain ⟨below, rfl, array⟩ := standard_planArray isTarget given
      exact planArray_series indexed sized isTarget isLeaf array

end Series

/-! ## Arguments -/

/-- A run of the program has come to the value. -/
def ComesTo (row : Row) (program : Program) (next : Pass) (value : Value) : Prop :=
  ∃ registers finished : Registers, next.nextRegister ≤ registers.size ∧
    runSteps row registers program.steps = .ok finished ∧ finished.get program.result = value

/-- The arguments are what their programs come to, each planned from what the earlier ones have
left. -/
inductive Supplied (env : Environment) (row : Row) (recurse : Planner) (site : Site) :
    Pass → List Parameter → List Value → Pass → Prop where
  | nil {pass : Pass} : Supplied env row recurse site pass [] [] pass
  | cons {pass middle next : Pass} {parameter : Parameter} {rest : List Parameter}
      {program : Program} {value : Value} {values : List Value}
      (planned : Gives (planArgument env recurse site parameter) pass program middle)
      (comes : ComesTo row program middle value)
      (later : Supplied env row recurse site middle rest values next) :
      Supplied env row recurse site pass (parameter :: rest) (value :: values) next

/-- The constructor has made the instance of arguments that are planned from this pass on. -/
def Constructed (env : Environment) (row : Row) (recurse : Planner) (site : Site) (pass : Pass)
    (constructor : Constructor) (type : ObjectType) (start : Object) : Prop :=
  ∃ arguments last, Supplied env row recurse site pass constructor.parameters arguments last ∧
    start = constructor.construct type arguments

theorem planInstance_constructed {type : ObjectType} {constructor : Constructor}
    {factory : Option Factory} (indexed : env.header.WellIndexed) (reliable : Reliable env recurse)
    (sized : pass.claims.length = env.header.length) (unmade : factoryFor env type factory = none)
    (chosen : type.chooseConstructor (env.settings.ofType? type.name)
      ⟨env.header, pass.claims, site.scope⟩ env.settings = .ok constructor)
    (given : Gives (planInstance env recurse site type factory) pass program next) :
    Yields row none input
      (fun value => ∃ start : Object, Constructed env row recurse site pass constructor type start ∧
        value = start.toValue) program next := by
  rcases planInstance_gives given with ⟨maker, isMaker, -⟩ |
    ⟨-, other, arguments, middle, isOther, planned, rfl, rfl⟩
  · cases unmade.symm.trans isMaker
  · cases chosen.symm.trans isOther
    obtain ⟨outputs, produces, supplied⟩ := @planArguments_collects _ row _ _ _ _
      (Supplied env row recurse site) (fun _ _ => ComesTo row) _ _ indexed reliable
      (fun _ => Supplied.nil) (fun planned comes later => Supplied.cons planned comes later)
      (fun _ _ registers finished fits _ ran => ⟨registers, finished, fits, ran, rfl⟩) sized planned
    refine Produces.gathered (fun values => (constructor.construct type values).toValue) produces
      (fun registers => by rw [runStep]) fun values same => ?_
    exact ⟨_, ⟨values, middle, supplied values same, rfl⟩, rfl⟩

/-! ## The turn of the sink -/

/-- No column without a name has been claimed. -/
def LeavesUnnamed (env : Environment) (pass : Pass) : Prop :=
  ∀ column ∈ env.header.unnamed env.settings, pass.claims.isClaimed column.index = false

/-- The field holds what it held before, provided that no other property that is set has its name. -/
def Untouched (type : ObjectType) (name : String) (before after : Object) : Prop :=
  (∀ property ∈ plainProperties type, property.name ≠ name) → after.get? name = before.get? name

/-- The sink holds the cells of all columns without a name. If there are none, it is untouched. -/
structure Drained (env : Environment) (row : Row) (type : ObjectType) (sink : Property)
    (leaf : Leaf) (form : SequenceForm) (before after : Object) : Prop where
  filled : env.header.unnamed env.settings ≠ [] → ∃ value,
    after.get? sink.name = some value ∧
      SeriesOf env row leaf form (env.header.unnamed env.settings) value
  kept : env.header.unnamed env.settings = [] → Untouched type sink.name before after

/-- An instance that the constructor has made, when its sink has had its turn. -/
def IsDrained (env : Environment) (row : Row) (recurse : Planner) (site : Site) (pass : Pass)
    (constructor : Constructor) (type : ObjectType) (sink : Property) (leaf : Leaf)
    (form : SequenceForm) (value : Value) : Prop :=
  ∃ start after : Object, value = after.toValue ∧
    Constructed env row recurse site pass constructor type start ∧
    Drained env row type sink leaf form start after

section Turn

variable (indexed : env.header.WellIndexed) (sized : pass.claims.length = env.header.length)
variable (atRoot : site.scope = .root) (leaves : LeavesUnnamed env pass)
include indexed sized atRoot leaves

theorem planSink_series {target : Target} {result : Option Program}
    (isSeries : target.IsSeries leaf form)
    (given : Gives (planSink env (standard env (levels + 1)) site target) pass result next) :
    (env.header.unnamed env.settings = [] ∧ result = none) ∨
      (env.header.unnamed env.settings ≠ [] ∧ ∃ program, result = some program ∧
        Yields row none (fun _ => True)
          (SeriesOf env row leaf form (env.header.unnamed env.settings)) program next) := by
  have nameless := Header.nameless_free leaves
  have offered : env.header.available pass.claims (sinkSite env site pass target).scope =
      env.header.unnamed env.settings := by
    rw [sinkSite, atRoot]
    exact Header.available_nameless leaves indexed
  have series : (sinkSite env site pass target).target.IsSeries leaf form := by
    rwa [sinkSite, isSeries.resolve]
  rcases planSink_cases given with ⟨isEmpty, rfl, -⟩ | ⟨isSome, sink⟩
  · rw [atRoot, nameless, List.map_eq_nil_iff] at isEmpty
    exact Or.inl ⟨isEmpty, rfl⟩
  · rw [atRoot, nameless, Ne, List.map_eq_nil_iff] at isSome
    have present : (sinkSite env site pass target).IsPresent env pass := Or.inr (offered ▸ isSome)
    cases result with
    | none =>
        exact absurd sink
          (standard_answers present series.isPlannable (Or.inl series.isStartable) next)
    | some program =>
        refine Or.inr ⟨isSome, program, rfl, ?_⟩
        rw [← offered]
        exact standard_series indexed sized series rfl sink

end Turn

section Turns

variable {target : Register} {steps : List Step} {sink : Property} {type : ObjectType}
variable {constructor : Constructor}
variable (indexed : env.header.WellIndexed) (reliable : Reliable env recurse)
variable (planLocal : Local env 0 recurse) (sized : pass.claims.length = env.header.length)
variable (atRoot : site.scope = .root) (leaves : LeavesUnnamed env pass)
include indexed reliable planLocal sized atRoot leaves

theorem setEach_leaves {properties : List Property}
    (spares : ∀ property ∈ properties, env.settings.SparesMark property.name)
    (known : target < pass.nextRegister)
    (given : Gives (setEach (setProperty env recurse site target) properties) pass steps next) :
    LeavesUnnamed env next := by
  induction properties generalizing pass steps with
  | nil =>
      obtain ⟨-, rfl⟩ := gives_pure.mp given
      exact leaves
  | cons property rest ih =>
      obtain ⟨first, middle, others, assigned, later, rfl⟩ := setEach_cons given
      have onward := (setProperty_planned indexed reliable sized known assigned).onward
      refine ih (onward.length.trans sized) (fun column isUnnamed => ?_)
        (fun other member => spares other (List.mem_cons_of_mem _ member))
        (Nat.lt_of_lt_of_le known onward.registers) later
      obtain ⟨isColumn, named⟩ := Header.mem_unnamed.mp isUnnamed
      have uncovered := (spares property List.mem_cons_self).uncovered named
      exact (setProperty_spare indexed planLocal isColumn atRoot sized uncovered assigned).trans
        (leaves column isUnnamed)

theorem planInstance_leaves {factory : Option Factory}
    (drains : type.DrainsInto env.settings constructor sink leaf form)
    (chosen : type.chooseConstructor (env.settings.ofType? type.name)
      ⟨env.header, pass.claims, .root⟩ env.settings = .ok constructor)
    (given : Gives (planInstance env recurse site type factory) pass program next) :
    LeavesUnnamed env next := by
  intro column isUnnamed
  obtain ⟨isColumn, named⟩ := Header.mem_unnamed.mp isUnnamed
  have spared := planInstance_spare indexed planLocal isColumn atRoot reliable sized
    (fun other _ isOther parameter member => by
      cases chosen.symm.trans isOther
      obtain ⟨notSink, spares⟩ := drains.parameters parameter member
      exact spares.spares named notSink) given
  exact spared.trans (leaves column isUnnamed)

end Turns

theorem plainProperties_keep {target : Register} {steps : List Step} {type : ObjectType}
    (name : String) (before : Object) (indexed : env.header.WellIndexed)
    (reliable : Reliable env recurse) (sized : pass.claims.length = env.header.length)
    (known : target < pass.nextRegister)
    (given : Gives (setEach (setProperty env recurse site target) (plainProperties type)) pass steps
      next) :
    Keeps row target
      (fun held => ∃ object : Object, held = object.toValue ∧ Untouched type name before object)
      steps next := by
  refine setEach_keeps
    (fun sized known given => setProperty_planned indexed reliable sized known given)
    (fun property member _ _ _ sized known given => ?_) sized known given
  refine setProperty_stable indexed reliable sized known ?_ given
  rintro _ value ⟨object, rfl, untouched⟩
  refine ⟨object.set property.name value, rfl, fun others => ?_⟩
  exact (Entries.get?_insert_of_ne _ _ (others property member).symm).trans (untouched others)

section Objects

variable {target : Register} {steps : List Step} {sink : Property} {type declared : ObjectType}
variable {constructor : Constructor} {register : Register}
variable (indexed : env.header.WellIndexed) (sized : pass.claims.length = env.header.length)
variable (atRoot : site.scope = .root) (leaves : LeavesUnnamed env pass)
include indexed sized atRoot leaves

theorem setProperties_drains (drains : type.DrainsInto env.settings constructor sink leaf form)
    (known : target < pass.nextRegister)
    (given : Gives (setProperties env (standard env (levels + 1)) site type target) pass steps next)
    (before : Object) :
    Brings row target (fun held => held = before.toValue)
      (fun held => ∃ after : Object, held = after.toValue ∧
        Drained env row type sink leaf form before after) steps next := by
  have reliable : Reliable env (standard env (levels + 1)) := standard_reliable indexed _
  have planLocal : Local env 0 (standard env (levels + 1)) := standard_local indexed _
  obtain ⟨plain, middle, sinks, planPlain, planSinks, rfl⟩ := setProperties_gives given
  have plainPlanned := setEach_planned
    (fun sized known given => setProperty_planned indexed reliable sized known given)
    sized known planPlain
  have stillSized := plainPlanned.onward.length.trans sized
  have stillKnown := Nat.lt_of_lt_of_le known plainPlanned.onward.registers
  have stillLeaves :=
    setEach_leaves indexed reliable planLocal sized atRoot leaves drains.properties known planPlain
  rw [drains.only] at planSinks
  obtain ⟨steps, after, none, assigned, done, rfl⟩ := setEach_cons planSinks
  obtain ⟨rfl, rfl⟩ := gives_pure.mp done
  rw [List.append_nil]
  obtain ⟨found, planned, rfl⟩ := setSink_gives assigned
  have onward := (setSink_planned reliable stillSized stillKnown assigned).onward
  have keeps : Brings row target (fun held => held = before.toValue)
      (fun held => ∃ object : Object, held = object.toValue ∧
        Untouched type sink.name before object) plain middle :=
    fun registers finished fits same ran => plainProperties_keep sink.name before indexed reliable
      sized known planPlain registers finished fits ⟨before, same, fun _ => rfl⟩ ran
  refine Brings.append onward.registers keeps ?_
  rcases planSink_series indexed stillSized atRoot stillLeaves drains.isSeries planned with
    ⟨allNamed, rfl⟩ | ⟨someUnnamed, program, rfl, series⟩
  · rintro registers finished fits ⟨object, same, untouched⟩ ran
    cases ran
    exact ⟨object, same, fun someUnnamed => absurd allNamed someUnnamed, fun _ => untouched⟩
  · have isPlanned := planSink_planned reliable stillSized planned
    refine Brings.added (fun held => held.setField sink.name) isPlanned series stillKnown
      (fun registers => by rw [runStep]) ?_
    rintro _ value ⟨object, rfl, -⟩ isSeries
    refine ⟨object.set sink.name value, rfl, fun _ => ⟨value, ?_, isSeries⟩, fun allNamed => ?_⟩
    · exact Entries.get?_insert_self _ _ _
    · exact absurd allNamed someUnnamed

theorem planSingle_drains {own : Option TypePolicy} (isThere : site.existing = some register)
    (unmade : factoryFor env (concreteOf declared own) (own.bind TypePolicy.factory) = none)
    (chosen : (concreteOf declared own).chooseConstructor
      (env.settings.ofType? (concreteOf declared own).name)
      ⟨env.header, pass.claims, .root⟩ env.settings = .ok constructor)
    (drains : (concreteOf declared own).DrainsInto env.settings constructor sink leaf form)
    (given : Gives (planSingle env (standard env (levels + 1)) site declared own) pass program
      next) :
    Yields row (some register) (fun present => ∀ before : Object, present ≠ before.toValue)
      (IsDrained env row (standard env (levels + 1)) site pass constructor
        (concreteOf declared own) sink leaf form) program next := by
  have reliable : Reliable env (standard env (levels + 1)) := standard_reliable indexed _
  have planLocal : Local env 0 (standard env (levels + 1)) := standard_local indexed _
  rw [← atRoot] at chosen
  refine planSingle_new indexed reliable sized isThere
    (fun {create middle} created =>
      planInstance_constructed indexed reliable sized unmade chosen created)
    (fun {create middle after assigns} created set => ?_) given
  have onward := (planInstance_planned indexed reliable sized created).block.onward
  have stillSized : middle.advanced.claims.length = env.header.length :=
    onward.length.trans sized
  rw [atRoot] at chosen
  have stillLeaves : LeavesUnnamed env middle :=
    planInstance_leaves indexed reliable planLocal sized atRoot leaves drains chosen created
  rintro registers finished fits ⟨start, constructed, same⟩ ran
  obtain ⟨after, isAfter, drained⟩ := setProperties_drains indexed stillSized atRoot stillLeaves
    drains (Nat.lt_succ_self _) set start registers finished fits same ran
  exact ⟨start, after, isAfter, constructed, drained⟩

end Objects

end Planning

/-! ## Defaults -/

theorem Object.get?_foldl {α : Type} {key : String} {content : Option Value} {name : α → String}
    {value : α → Value} {items : List α} {object : Object}
    (each : ∀ item ∈ items, name item = key → content = some (value item))
    (starts : object.get? key = content ∨ ∃ item ∈ items, name item = key) :
    (items.foldl (fun object item => object.set (name item) (value item)) object).get? key =
      content := by
  induction items generalizing object with
  | nil => exact starts.resolve_right (by simp)
  | cons first rest ih =>
      rw [List.foldl_cons]
      refine ih (fun item member => each item (List.mem_cons_of_mem _ member)) ?_
      by_cases same : name first = key
      · refine Or.inl ?_
        rw [each first List.mem_cons_self same, ← same]
        exact Entries.get?_insert_self _ _ _
      · rcases starts with held | ⟨item, member, isKey⟩
        · exact Or.inl ((Entries.get?_insert_of_ne _ _ (Ne.symm same)).trans held)
        · rcases List.mem_cons.mp member with rfl | later
          · exact absurd isKey same
          · exact Or.inr ⟨item, later, isKey⟩

/-- The constructor leaves the property at its default: it stores its arguments in other fields, and
no other property has the name. -/
structure ConstructorOf.LeavesDefault (constructor : Constructor) (type : ObjectType)
    (property : Property) : Prop where
  stores : constructor.body = none
  apart : ∀ parameter ∈ constructor.parameters,
    Text.equalIgnoringCase property.name parameter.name = false
  member : property ∈ type.properties
  alone : ∀ other ∈ type.properties, other.name = property.name → other = property

theorem ConstructorOf.LeavesDefault.construct {constructor : Constructor} {type : ObjectType}
    {property : Property} (leaves : constructor.LeavesDefault type property)
    (arguments : List Value) :
    (constructor.construct type arguments).get? property.name =
      some property.target.defaultValue := by
  have blank : type.blank.get? property.name = some property.target.defaultValue := by
    refine Object.get?_foldl (fun other member same => ?_) (Or.inr ⟨property, leaves.member, rfl⟩)
    rw [leaves.alone other member same]
  rw [ConstructorOf.construct, leaves.stores]
  refine Object.get?_foldl (fun entry member same => ?_) (Or.inl blank)
  have apart := leaves.apart entry.1 (List.of_mem_zip member).1
  -- The field bears the name of the parameter, letter case aside, but the property does not.
  cases found : type.property? entry.1.name with
  | none =>
      rw [found, Option.map_none, Option.getD_none] at same
      rw [same, Text.equalIgnoringCase_refl] at apart
      cases apart
  | some other =>
      rw [found, Option.map_some, Option.getD_some] at same
      have alike := List.find?_some found
      rw [same, apart] at alike
      cases alike

theorem ObjectTypeOf.DrainsInto.isSink {type : ObjectType} {settings : Settings}
    {constructor : Constructor} {sink : Property} {leaf : Leaf} {form : SequenceForm}
    (drains : type.DrainsInto settings constructor sink leaf form) : sink.isSink = true := by
  have member : sink ∈ sinkProperties type := by
    rw [drains.only]
    exact List.mem_singleton_self sink
  exact (List.mem_filter.mp member).2

theorem Environment.Constructs.updatedType {env : Environment} {declared : ObjectType}
    {constructor : Constructor} (constructs : env.Constructs declared constructor) :
    env.settings.updatedType declared =
      concreteOf declared (env.settings.ofType? declared.name) := by
  unfold Settings.updatedType
  cases configured : env.settings.ofType? declared.name with
  | none => rfl
  | some own =>
      dsimp only
      rw [constructs.unruled own configured]
      rfl

theorem Plan.run_drains {env : Environment} {target : Target} {declared : ObjectType} {plan : Plan}
    {row : Row} {value : Value} {constructor : Constructor} {sink : Property} {leaf : Leaf}
    {form : SequenceForm} (indexed : env.header.WellIndexed)
    (isObject : target.resolve env.bindings = .object declared)
    (constructs : env.Constructs declared constructor)
    (drains : (env.settings.updatedType declared).DrainsInto env.settings constructor sink leaf form)
    (planned : Plan.ofTarget .standard env target = .ok plan)
    (ran : plan.run row .null = .ok value) :
    IsDrained env row (standard env deepestLevel) (Site.atRoot env.bindings target)
      ⟨Claims.none env.header, existingRegister + 1⟩ constructor (env.settings.updatedType declared)
      sink leaf form value := by
  have sized : (Claims.none env.header).length = env.header.length :=
    Claims.length_none _
  have unmade := constructs.unmade
  have chosen := constructs.chosen
  rw [constructs.updatedType] at drains unmade chosen ⊢
  refine Plan.run_yields indexed planned ran fun given => ?_
  obtain ⟨below, same, object⟩ := standard_planObject isObject given
  cases same
  rcases planObject_gives object with ⟨impossible, -⟩ | ⟨_, other, same, isOther, way⟩
  · cases impossible
  cases same
  cases isObject.symm.trans isOther
  rcases way with ⟨-, single⟩ | ⟨own, configured, ruled, -⟩
  · intro registers finished fits starts runs
    refine planSingle_drains indexed sized rfl (fun column _ => Claims.isClaimed_none _ _) rfl unmade
      chosen drains single registers finished fits (fun register isRegister before => ?_) runs
    rw [starts register isRegister]
    exact nofun
  · exact absurd (constructs.unruled own configured) ruled

/-! ## Drawers

A drawer has a label, and what has no label goes to the rest. -/

namespace Drawers

def label : Property :=
  { name := "Label", target := .scalar .string }

def rest : Property :=
  { name := "Rest", target := .list (.scalar (.int .int32)), isSink := true }

def labelling : Constructor :=
  { ident := 11, owner := "Drawer", parameters := [{ name := "label", target := .scalar .string }] }

/-- Takes the rest as well. -/
def stocking : Constructor :=
  { ident := 12, owner := "Drawer", parameters := [{ name := "rest", target := rest.target }] }

def drawer (making : Constructor) : ObjectType :=
  ObjectTypeOf.declare 1 "Drawer" false [label, rest] 13 [making]

def columns : List Column :=
  [Column.declare "" (.int .int32), Column.declare "LABEL" .string, Column.declare "" (.int .int32)]

def cell (value : Int) : Value :=
  .int .int32 (FixedInt.wrapping .int32 value)

def row : Row :=
  ⟨columns, [cell 3, .string "Nails", cell 5]⟩

def restColumns : List Column :=
  [Column.declare "rest" (.int .int32)]

def restRow : Row :=
  ⟨restColumns, [cell 5]⟩

def mapper? (making : Constructor) (columns : List Column) : Except Failure Mapper :=
  Mapper.make .standard [] (.object (drawer making)) (Header.ofColumns columns) {}

def env (columns : List Column) : Environment :=
  ⟨Header.ofColumns columns, {}, []⟩

def number : Leaf :=
  ⟨.scalar (.int .int32), false⟩

def numbers? : Value → Option (List (Option Int))
  | .object typeName fields =>
    ((Object.mk typeName fields).get? rest.name).bind fun value =>
      value.items?.map (List.map Value.asInt?)
  | _ => none

theorem mapped {making : Constructor} {columns : List Column} {row : Row}
    {numbers : Option (List (Option Int))}
    (counts : ((mapper? making columns).bind fun mapper => (mapper.map row).map numbers?) =
      .ok numbers) :
    ∃ mapper value, mapper? making columns = .ok mapper ∧ mapper.map row = .ok value ∧
      numbers? value = numbers := by
  obtain ⟨mapper, made, ran⟩ := Except.bind_eq_ok counts
  obtain ⟨value, isValue, same⟩ := Except.map_eq_ok ran
  exact ⟨mapper, value, made, isValue, same⟩

theorem drawer_drains {making : Constructor}
    (parameters : ∀ parameter ∈ making.parameters,
      parameter.isSink = false ∧ Settings.SparesMark {} parameter.name) :
    (drawer making).DrainsInto {} making rest number .list := by
  refine ⟨rfl, .list rfl, fun property member => ?_, parameters⟩
  obtain rfl : property = label := List.mem_singleton.mp member
  decide +kernel

theorem labelling_constructs : (env columns).Constructs (drawer labelling) labelling :=
  ⟨nofun, rfl, rfl⟩

theorem stocking_constructs : (env restColumns).Constructs (drawer stocking) stocking :=
  ⟨nofun, rfl, rfl⟩

end Drawers

/-- A sink gets the cells of all columns without a name, each once and in the order of the columns.
Without such columns it keeps what the constructor has left in it. -/
theorem Mapper.map_drains {bindings : Bindings} {target : Target} {declared : ObjectType}
    {columns : List Column} {settings : Settings} {mapper : Mapper} {row : Row} {value : Value}
    {constructor : Constructor} {sink : Property} {leaf : Leaf} {form : SequenceForm}
    (isObject : target.resolve bindings = .object declared)
    (constructs : Environment.Constructs ⟨Header.ofColumns columns, settings, bindings⟩ declared
      constructor)
    (drains : (settings.updatedType declared).DrainsInto settings constructor sink leaf form)
    (made : Mapper.make .standard bindings target (Header.ofColumns columns) settings = .ok mapper)
    (mapped : mapper.map row = .ok value) :
    ∃ start after : Object, value = after.toValue ∧
      Constructed ⟨Header.ofColumns columns, settings, bindings⟩ row
        (standard ⟨Header.ofColumns columns, settings, bindings⟩ deepestLevel)
        (Site.atRoot bindings target)
        ⟨Claims.none (Header.ofColumns columns), existingRegister + 1⟩ constructor
        (settings.updatedType declared) start ∧
      Drained ⟨Header.ofColumns columns, settings, bindings⟩ row (settings.updatedType declared) sink
        leaf form start after ∧
      ((Header.ofColumns columns).unnamed settings = [] →
        constructor.LeavesDefault (settings.updatedType declared) sink →
          after.get? sink.name = some sink.target.defaultValue) := by
  obtain ⟨plan, planned, rfl⟩ := Except.map_eq_ok made
  obtain ⟨start, after, rfl, constructed, drained⟩ :=
    Plan.run_drains (Header.ofColumns_wellIndexed columns) isObject constructs drains planned mapped
  refine ⟨start, after, rfl, constructed, drained, fun allNamed leaves => ?_⟩
  obtain ⟨arguments, -, -, rfl⟩ := constructed
  rw [drained.kept allNamed fun property member same => ?_, leaves.construct]
  obtain ⟨isAssignable, notSink⟩ := List.mem_filter.mp member
  rw [leaves.alone property (List.mem_filter.mp isAssignable).1 same, drains.isSink] at notSink
  cases notSink

/-- Both numbers without a name are in the drawer, in their order. -/
theorem Drawers.numbers_drained : ∃ mapper after cells,
    Drawers.mapper? Drawers.labelling Drawers.columns = .ok mapper ∧
    mapper.map Drawers.row = .ok (Object.toValue after) ∧
    after.get? "Rest" = some (.list cells) ∧ cells.length = 2 ∧
    List.Forall₂
      (fun column cell =>
        cellOf (Drawers.env Drawers.columns) Drawers.row column Drawers.number = .ok cell)
      ((Header.ofColumns Drawers.columns).unnamed {}) cells := by
  have counts : ((Drawers.mapper? Drawers.labelling Drawers.columns).bind fun mapper =>
      (mapper.map Drawers.row).map Drawers.numbers?) = .ok (some [some 3, some 5]) := by
    decide +kernel
  have someUnnamed : (Header.ofColumns Drawers.columns).unnamed {} ≠ [] := by decide +kernel
  have isObject : (Target.object (Drawers.drawer Drawers.labelling)).resolve [] =
      .object (Drawers.drawer Drawers.labelling) := rfl
  have parameters : ∀ parameter ∈ Drawers.labelling.parameters,
      parameter.isSink = false ∧ Settings.SparesMark {} parameter.name := by decide +kernel
  obtain ⟨mapper, value, made, ran, -⟩ := Drawers.mapped counts
  obtain ⟨_, after, rfl, -, drained, -⟩ := Mapper.map_drains isObject Drawers.labelling_constructs
    (Drawers.drawer_drains parameters) made ran
  obtain ⟨_, isField, cells, each, rfl⟩ := drained.filled someUnnamed
  refine ⟨mapper, after, cells, made, ran, isField, ?_, each⟩
  rw [← each.length_eq]
  decide +kernel

/-- The constructor has put the rest into the drawer, and no column is without a name. -/
theorem Drawers.rest_constructed : ∃ mapper after,
    Drawers.mapper? Drawers.stocking Drawers.restColumns = .ok mapper ∧
    mapper.map Drawers.restRow = .ok (Object.toValue after) ∧
    (Drawers.env Drawers.restColumns).Constructs (Drawers.drawer Drawers.stocking)
      Drawers.stocking ∧
    (Drawers.drawer Drawers.stocking).DrainsInto {} Drawers.stocking Drawers.rest Drawers.number
      .list ∧
    (Header.ofColumns Drawers.restColumns).unnamed {} = [] ∧
    after.get? Drawers.rest.name ≠ some Drawers.rest.target.defaultValue := by
  have counts : ((Drawers.mapper? Drawers.stocking Drawers.restColumns).bind fun mapper =>
      (mapper.map Drawers.restRow).map Drawers.numbers?) = .ok (some [some 5]) := by
    decide +kernel
  obtain ⟨mapper, value, made, ran, numbers⟩ := Drawers.mapped counts
  cases value with
  | object typeName fields =>
      refine ⟨mapper, ⟨typeName, fields⟩, made, ran, Drawers.stocking_constructs,
        Drawers.drawer_drains (by decide +kernel), by decide +kernel, fun isDefault => ?_⟩
      rw [Drawers.numbers?, isDefault] at numbers
      cases numbers
  | _ => cases numbers

end Unflatten
