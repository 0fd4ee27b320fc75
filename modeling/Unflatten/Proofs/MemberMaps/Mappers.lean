import Unflatten.Proofs.MemberMaps.Properties

/-!
# Mapped objects keep their columns

An object is made by a factory or a constructor and then its properties have their turns. Whatever
columns the node of an argument or of a property has claimed for a map of leaves are in the map
afterwards, unless two of them are spelt alike.
-/

set_option autoImplicit false

namespace Unflatten

namespace Scope

theorem speltApart_among (indices : List Nat) (columns : List HeaderColumn) :
    (among indices).SpeltApart columns := by
  have whole (column : HeaderColumn) : (among indices).leftOut column = [] := by
    have none : (among indices).leftOutCount column = 0 := by
      simp [leftOutCount, among, Text.byteLength, countFolded]
    rw [leftOut, none]
    rfl
  intro first _ second _ differs
  rw [whole first, whole second] at differs
  exact absurd rfl differs

end Scope

namespace Planning

/-- Columns of leaves, which no rule turns into containers. -/
structure LeafRow (env : Environment) (row : Row) : Prop where
  indexed : env.header.WellIndexed
  folded : ∀ column ∈ env.header, column.IsFolded
  keeps : env.settings.KeepsLeaves
  leaves : ∀ column ∈ env.header, (row.value column.index).isLeaf = true

variable {env : Environment} {row : Row} {site : Site} {pass next : Pass} {program : Program}
variable {levels : Nat} {leaf : Leaf} {kind : Option DictionaryType} {scope : Scope}
variable {type declared : ObjectType} {factory : Option Factory} {input : Value → Prop}

section Filled

variable {start value : Value} (leafRow : LeafRow env row)
variable (apart : scope.SpeltApart (env.header.available pass.claims scope))
variable (filled : Filled env row leaf (env.header.namesakes pass.claims scope) start value)

include leafRow in
theorem LeafRow.namesakes_leaves {column : HeaderColumn}
    (member : column ∈ (env.header.namesakes pass.claims scope).flatMap Namesakes.columns) :
    (row.value column.index).isLeaf = true := by
  have available := Header.namesakes_perm.mem_iff.mp member
  exact leafRow.leaves column (List.mem_filter.mp available).1

include leafRow apart in
theorem LeafRow.display_nodup :
    ((env.header.namesakes pass.claims scope).map Namesakes.display).Nodup :=
  (env.header.namesakes_calledBy pass.claims scope).display_nodup
    (fun column member => leafRow.folded column (List.mem_filter.mp member).1) apart

include leafRow apart filled

theorem LeafRow.counts {entries : Entries Value} (isMap : value = .map entries)
    (sorted : entries.Sorted) :
    Value.leafCountEntries entries = (env.header.available pass.claims scope).length +
      Value.leafCountEntries (entries.filter fun entry =>
        entry.1 ∉ (env.header.namesakes pass.claims scope).map Namesakes.display) := by
  rw [Filled.counts leafRow.keeps (fun _ member => leafRow.namesakes_leaves member)
    (leafRow.display_nodup apart) filled isMap sorted, Header.namesakes_perm.length_eq]

theorem LeafRow.counts_new (empty : start = .map []) : ∃ entries, value = .map entries ∧
    Value.leafCountEntries entries = (env.header.available pass.claims scope).length := by
  obtain ⟨entries, isMap, count⟩ := Filled.counts_new leafRow.keeps
    (fun _ member => leafRow.namesakes_leaves member) (leafRow.display_nodup apart) filled empty
  exact ⟨entries, isMap, count.trans Header.namesakes_perm.length_eq⟩

end Filled

/-! ## Arguments -/

/-- The argument has no columns, or it is a map with a leaf for each that was claimed. -/
def ArgumentHolds (env : Environment) (site : Site) (parameter : Parameter) (before after : Pass)
    (value : Value) : Prop :=
  ∀ (leaf : Leaf) (kind : Option DictionaryType) (scope : Scope),
    parameter.target.IsMapOf leaf kind → StartsEmpty kind →
    scope = site.scope.member parameter.name env.settings.separator →
    scope.SpeltApart (env.header.available before.claims scope) →
      (after.claims = before.claims ∧ value = .null) ∨
        ∃ entries, value = .map entries ∧
          before.claims.count + Value.leafCountEntries entries = after.claims.count

/-- The values of the arguments, each with the pass before and behind it. -/
inductive Arguments (env : Environment) (recurse : Planner) (site : Site) :
    Pass → List Parameter → List Value → Pass → Prop where
  | nil {pass : Pass} : Arguments env recurse site pass [] [] pass
  | cons {pass middle next : Pass} {parameter : Parameter} {rest : List Parameter}
      {program : Program} {value : Value} {values : List Value}
      (planned : Gives (planArgument env recurse site parameter) pass program middle)
      (holds : ArgumentHolds env site parameter pass middle value)
      (later : Arguments env recurse site middle rest values next) :
      Arguments env recurse site pass (parameter :: rest) (value :: values) next

section Instances

variable (leafRow : LeafRow env row) (sized : pass.claims.length = env.header.length)
include leafRow sized

theorem LeafRow.newMap_yields
    (given : Gives (standard env levels site) pass (some program) next)
    (isMap : site.target.IsMapOf leaf kind) (startsEmpty : StartsEmpty kind)
    (fresh : site.existing = none)
    (apart : site.scope.SpeltApart (env.header.available pass.claims site.scope)) :
    Yields row none input
      (fun value => ∃ entries, value = .map entries ∧
        pass.claims.count + Value.leafCountEntries entries = next.claims.count) program next := by
  have fills : _ ∧ Yields row _ _ _ program next :=
    standard_fills leafRow.indexed sized (by simp [fresh]) isMap given .null
  obtain ⟨count, yields⟩ := fills
  rw [fresh] at yields
  refine Yields.ofNew (yields.mono ?_)
  rintro value ⟨start, started, filled⟩
  obtain ⟨entries, same, leaves⟩ :=
    leafRow.counts_new apart filled (started.empty (Or.inl rfl) startsEmpty)
  exact ⟨entries, same, by rw [leaves, count]⟩

theorem planArgument_holds {parameter : Parameter}
    (given : Gives (planArgument env (standard env levels) site parameter) pass program next) :
    Yields row none input (ArgumentHolds env site parameter pass next) program next := by
  have reliable : Reliable env (standard env levels) := standard_reliable leafRow.indexed levels
  intro registers finished fits starts ran leaf kind scope isMap startsEmpty isScope apart
  subst isScope
  have isMapHere : (parameter.target.resolve env.bindings).IsMapOf leaf kind := by
    rwa [isMap.resolve]
  rcases planArgument_gives given with named | ⟨middle, declined, way⟩
  · rcases planNamedArgument_gives named with ⟨impossible, -⟩ | ⟨other, _, _, -, isLeaf, -⟩ |
      ⟨-, member⟩
    · cases impossible
    · cases isMap.notLeaf.symm.trans isLeaf
    · exact Or.inr (leafRow.newMap_yields sized member isMapHere startsEmpty rfl apart registers
        finished fits starts ran)
  · obtain rfl := planNamedArgument_declines reliable declined
    rcases way with ⟨-, sink⟩ | ⟨between, unclaimed, default⟩
    · rcases planSink_gives sink with ⟨impossible, -⟩ | member
      · cases impossible
      · exact Or.inr (leafRow.newMap_yields sized member isMapHere startsEmpty rfl
          (Scope.speltApart_among _ _) registers finished fits starts ran)
    · obtain ⟨rfl, rfl⟩ := gives_constant.mp default
      have isDefault : Yields row none input (fun value => value = .null)
          (Program.single (.constant parameter.target.defaultValue between.nextRegister)
            between.nextRegister) between.advanced :=
        Yields.constant (by rw [Target.defaultValue, isMap.notLeaf])
      refine Or.inl ⟨?_, isDefault registers finished fits starts ran⟩
      rcases unclaimed with rfl | unused
      · rfl
      · rw [planSink_declines reliable unused]
        rfl

theorem planArguments_hold {parameters : List Parameter} {arguments : List Program}
    (given : Gives (planArguments env (standard env levels) site parameters) pass arguments next) :
    ∃ outputs, Produces row pass arguments outputs next ∧
      ∀ values, List.Forall₂ (fun output value => output value) outputs values →
        Arguments env (standard env levels) site pass parameters values next :=
  planArguments_collects leafRow.indexed (standard_reliable leafRow.indexed levels)
    (fun _ => Arguments.nil) (fun planned holds later => Arguments.cons planned holds later)
    (fun sized argument => planArgument_holds leafRow sized argument) sized given

end Instances

/-! ## Instances -/

/-- The object that a factory makes of the row, or a constructor of its arguments, with what has
been claimed for it. -/
inductive Makes (env : Environment) (row : Row) (recurse : Planner) (site : Site)
    (type : ObjectType) (factory : Option Factory) (claims : Claims) : Claims → Object → Prop where
  | produced {maker : Factory} {object : Object}
      (found : factoryFor env type factory = some maker) (made : maker.make row = some object) :
      Makes env row recurse site type factory claims claims object
  | constructed {constructor : Constructor} {values : List Value} {first last : Pass}
      (unmade : factoryFor env type factory = none)
      (chosen : type.chooseConstructor (env.settings.ofType? type.name)
        ⟨env.header, claims, site.scope⟩ env.settings = .ok constructor)
      (start : first.claims = claims)
      (arguments : Arguments env recurse site first constructor.parameters values last) :
      Makes env row recurse site type factory claims last.claims
        (constructor.construct type values)

/-- How the turn of a property is reached: after those of the earlier properties, from the claims
that the instance has left. -/
inductive Turn (env : Environment) (recurse : Planner) (site : Site) (earlier : List Property)
    (property : Property) (claims : Claims) (before after : Pass) : Prop where
  | intro {target : Register} {start : Pass} {first own : List Step}
      (begins : start.claims = claims)
      (turns : Gives (setEach (setMember env recurse site target) earlier) start first before)
      (turn : Gives (setMember env recurse site target property) before own after)

/-- What the turn of a property has left in its field: what the instance was made with, if no column
is claimed, or else a map with a leaf for each claimed column, besides the leaves under other names.
-/
inductive TurnHolds (env : Environment) (site : Site) (kind : Option DictionaryType)
    (property : Property) (before after : Pass) (made object : Object) : Prop where
  | idle (unclaimed : after.claims = before.claims)
      (kept : object.get? property.name = made.get? property.name)
  | filled {value : Value} (field : object.get? property.name = some value)
      (all : ∀ entries : Entries Value, value = .map entries → entries.Sorted →
        before.claims.count + Value.leafCountEntries entries =
          after.claims.count + Value.leafCountEntries (entries.filter fun entry =>
            entry.1 ∉ (env.header.namesakes before.claims (scopeOf env site before property)).map
              Namesakes.display))
      (only : (∃ found, made.get? property.name = some found ∧ Hollow found) →
        StartsEmpty kind → ∃ entries, value = .map entries ∧
          before.claims.count + Value.leafCountEntries entries = after.claims.count)

/-- An object that is made and whose properties have had their turns. -/
def Assembled (env : Environment) (row : Row) (recurse : Planner) (site : Site) (type : ObjectType)
    (factory : Option Factory) (claims : Claims) (value : Value) : Prop :=
  ∃ made object claimed, value = Object.toValue object ∧
    Makes env row recurse site type factory claims claimed made ∧
    ∀ (earlier later : List Property) (property : Property) (leaf : Leaf)
      (kind : Option DictionaryType), assigned type = earlier ++ property :: later →
      (∀ other ∈ earlier ++ later, other.name ≠ property.name) →
      property.target.IsMapOf leaf kind →
      ∃ before after, Turn env recurse site earlier property claimed before after ∧
        ((scopeOf env site before property).SpeltApart
            (env.header.available before.claims (scopeOf env site before property)) →
          TurnHolds env site kind property before after made object)

section Objects

variable (leafRow : LeafRow env row) (sized : pass.claims.length = env.header.length)
include leafRow sized

theorem planInstance_makes
    (given : Gives (planInstance env (standard env levels) site type factory) pass program next) :
    Yields row none input
      (fun value => ∃ object : Object, value = object.toValue ∧
        Makes env row (standard env levels) site type factory pass.claims next.claims object)
      program next := by
  rcases planInstance_gives given with ⟨maker, found, rfl, rfl⟩ |
    ⟨unmade, constructor, arguments, middle, chosen, planned, rfl, rfl⟩
  · refine Yields.outcome _ (fun registers => by rw [runStep]) rfl fun value made => ?_
    unfold produceInstance at made
    split at made
    · rename_i object isMade
      cases made
      exact ⟨object, rfl, Makes.produced found isMade⟩
    · cases made
  · obtain ⟨outputs, produces, holds⟩ := planArguments_hold leafRow sized planned
    refine Produces.gathered (fun values => (constructor.construct type values).toValue) produces
      (fun registers => by rw [runStep]) fun values same => ?_
    have makes : Makes env row (standard env levels) site type factory pass.claims middle.claims
        (constructor.construct type values) :=
      Makes.constructed unmade chosen rfl (holds values same)
    exact ⟨_, rfl, makes⟩

theorem setProperties_assemble {target : Register} {steps : List Step} {claims : Claims}
    (known : target < pass.nextRegister)
    (given : Gives (setProperties env (standard env levels) site type target) pass steps next) :
    Brings row target
      (fun value => ∃ object : Object, value = object.toValue ∧
        Makes env row (standard env levels) site type factory claims pass.claims object)
      (Assembled env row (standard env levels) site type factory claims) steps next := by
  have reliable : Reliable env (standard env levels) := standard_reliable leafRow.indexed levels
  have turns := setProperties_inTurn given
  rintro registers finished fits ⟨made, isMade, makes⟩ ran
  have isObject : (finished.get target).IsObject := by
    refine setEach_keeps
      (fun sized known given => setMember_planned leafRow.indexed reliable sized known given)
      (fun property _ _ _ _ sized known given => setMember_stable leafRow.indexed reliable sized
        known (fun held value isObject => isObject.setField _ _) given) sized known turns registers
      finished fits ⟨made, isMade⟩ ran
  obtain ⟨object, same⟩ := isObject
  refine ⟨made, object, _, same, makes, ?_⟩
  intro earlier later property leaf kind isSplit named isMap
  rw [isSplit] at turns
  obtain ⟨before, after, first, own, planFirst, planOwn, way⟩ :=
    @setEach_turn env site row _ _ _ _ property leaf kind _ _ _ leafRow.indexed sized known isMap
      named turns
  refine ⟨before, after, Turn.intro rfl planFirst planOwn, fun apart => ?_⟩
  have fieldIs : FieldIs property.name (made.get? property.name) (registers.get target) :=
    ⟨made, isMade, rfl⟩
  rcases way with ⟨unclaimed, keeps⟩ | ⟨count, brings⟩
  · obtain ⟨other, isOther, kept⟩ := keeps _ registers finished fits fieldIs ran
    cases Object.toValue_injective (same.symm.trans isOther)
    exact TurnHolds.idle unclaimed kept
  · obtain ⟨start, value, ⟨other, isOther, field⟩, filled, empty⟩ :=
      brings _ registers finished fits fieldIs ran
    cases Object.toValue_injective (same.symm.trans isOther)
    refine TurnHolds.filled field (fun entries isMap sorted => ?_) fun hollow startsEmpty => ?_
    · rw [leafRow.counts apart filled isMap sorted, count, Nat.add_assoc]
    · obtain ⟨entries, isMap, leaves⟩ :=
        leafRow.counts_new apart filled (empty hollow startsEmpty)
      exact ⟨entries, isMap, by rw [leaves, count]⟩

theorem planConcrete_assembles
    (given : Gives (planConcrete env (standard env levels) site type factory) pass program next) :
    Yields row none input
      (Assembled env row (standard env levels) site type factory pass.claims) program next := by
  have reliable : Reliable env (standard env levels) := standard_reliable leafRow.indexed levels
  obtain ⟨start, middle, created, assigned⟩ := planConcrete_gives given
  obtain ⟨assigns, set, rfl⟩ := planAssigned_gives assigned
  have creates := planInstance_planned leafRow.indexed reliable sized created
  have stillSized := creates.block.onward.length.trans sized
  have sets := setProperties_planned leafRow.indexed reliable stillSized creates.below set
  exact Yields.brought sets.onward.registers (planInstance_makes leafRow sized created)
    (setProperties_assemble leafRow stillSized creates.below set)

/-- Null is no object, so that a new instance is made. -/
theorem planSingle_assembles {own : Option TypePolicy}
    (known : ∀ register, site.existing = some register → register < pass.nextRegister)
    (given : Gives (planSingle env (standard env levels) site declared own) pass program next) :
    Yields row site.existing (fun present => present = .null)
      (Assembled env row (standard env levels) site (concreteOf declared own)
        (own.bind TypePolicy.factory) pass.claims) program next := by
  have reliable : Reliable env (standard env levels) := standard_reliable leafRow.indexed levels
  obtain ⟨create, middle, start, between, created, started, assigned⟩ := planSingle_gives given
  obtain ⟨assigns, set, rfl⟩ := planAssigned_gives assigned
  have creates := planInstance_planned leafRow.indexed reliable sized created
  have starts := reuseOrCreate_planned known creates started
  have stillSized := starts.block.onward.length.trans sized
  have sets := setProperties_planned leafRow.indexed reliable stillSized starts.below set
  have unchanged : between.claims = middle.claims := by
    rcases reuseOrCreate_gives started with ⟨-, -, rfl⟩ | ⟨_, -, rfl, -⟩
    · rfl
    · rfl
  have makes : Yields row site.existing (fun present => present = .null) _ start between :=
    reuseOrCreate_yields (planInstance_makes leafRow sized created)
      (fun value accepts same => by rw [same] at accepts; cases accepts) started
  rw [← unchanged] at makes
  exact Yields.brought sets.onward.registers makes
    (setProperties_assemble leafRow stillSized starts.below set)

end Objects

/-- The types that the declared one is instantiated as, with the factories that are named for
them. -/
inductive Instantiates (settings : Settings) (declared : ObjectType) :
    ObjectType → Option Factory → Prop where
  | single
      (unruled : ∀ own, settings.ofType? declared.name = some own → own.subtypes = []) :
      Instantiates settings declared (concreteOf declared (settings.ofType? declared.name))
        ((settings.ofType? declared.name).bind TypePolicy.factory)
  | subtype {own : TypePolicy} {rule : SubtypeCase}
      (configured : settings.ofType? declared.name = some own) (member : rule ∈ own.subtypes) :
      Instantiates settings declared rule.target.objectType rule.target.factory?
  | default {own : TypePolicy} {type : ObjectType}
      (configured : settings.ofType? declared.name = some own)
      (isDefault : own.default = some type) :
      Instantiates settings declared type none
  | declared {own : TypePolicy} (configured : settings.ofType? declared.name = some own)
      (noDefault : own.default = none) : Instantiates settings declared declared none

/-- An instance of one of these types is assembled. -/
def AssembledAs (env : Environment) (row : Row) (recurse : Planner) (site : Site)
    (declared : ObjectType) (claims : Claims) (value : Value) : Prop :=
  ∃ type factory, Instantiates env.settings declared type factory ∧
    Assembled env row recurse site type factory claims value

section Choices

variable (leafRow : LeafRow env row)
include leafRow

theorem planBranches_assemble {start : Claims} {rules : List SubtypeCase} {own : TypePolicy}
    {branches : List (Branch × Claims)} (sized : start.length = env.header.length)
    (configured : env.settings.ofType? declared.name = some own)
    (members : ∀ rule ∈ rules, rule ∈ own.subtypes)
    (given : Gives (planBranches env (standard env levels) site start rules) pass branches next) :
    pass.nextRegister ≤ next.nextRegister ∧
      ∀ branch ∈ branches, ∃ after : Pass, after.nextRegister ≤ next.nextRegister ∧
        Yields row none (fun _ => True)
          (AssembledAs env row (standard env levels) site declared start) branch.1.program
          after := by
  have reliable : Reliable env (standard env levels) := standard_reliable leafRow.indexed levels
  induction rules generalizing pass branches with
  | nil =>
      obtain ⟨rfl, rfl⟩ := gives_pure.mp given
      exact ⟨Nat.le_refl _, by simp⟩
  | cons rule rest ih =>
      obtain ⟨first, middle, others, concrete, later, rfl⟩ := planBranches_cons given
      have sizedHere : (Pass.mk start pass.nextRegister).claims.length = env.header.length := sized
      have planned := planConcrete_planned leafRow.indexed reliable sizedHere concrete
      have up : pass.nextRegister ≤ middle.nextRegister := planned.block.onward.registers
      obtain ⟨upRest, each⟩ := ih (fun other member => members other (by simp [member])) later
      refine ⟨Nat.le_trans up upRest, fun branch member => ?_⟩
      rcases List.mem_cons.mp member with rfl | member
      · refine ⟨middle, upRest,
          (planConcrete_assembles leafRow sizedHere concrete).mono fun value assembled => ?_⟩
        exact ⟨_, _, Instantiates.subtype configured (members rule (by simp)), assembled⟩
      · exact each branch member

theorem planFallback_assembles {own : TypePolicy} (sized : pass.claims.length = env.header.length)
    (configured : env.settings.ofType? declared.name = some own)
    (given : Gives (planFallback env (standard env levels) site declared own) pass program next) :
    Yields row none input
      (AssembledAs env row (standard env levels) site declared pass.claims) program next := by
  rcases planFallback_gives given with ⟨default, isDefault, planned⟩ | ⟨-, -, rfl, rfl⟩ |
    ⟨noDefault, -, planned⟩
  · refine (planConcrete_assembles leafRow sized planned).mono fun value assembled => ?_
    exact ⟨_, _, Instantiates.default configured isDefault, assembled⟩
  · intro registers finished _ _ ran
    have ran : runSteps row registers [.fail (.noSubtype declared.name)] = .ok finished := ran
    rw [runSteps_single, runStep] at ran
    cases ran
  · refine (planConcrete_assembles leafRow sized planned).mono fun value assembled => ?_
    exact ⟨_, _, Instantiates.declared configured noDefault, assembled⟩

theorem planPolymorphic_assembles {own : TypePolicy}
    (sized : pass.claims.length = env.header.length)
    (configured : env.settings.ofType? declared.name = some own)
    (given : Gives (planPolymorphic env (standard env levels) site declared own) pass program
      next) :
    Yields row site.existing (fun present => present = .null)
      (AssembledAs env row (standard env levels) site declared pass.claims) program next := by
  have reliable : Reliable env (standard env levels) := standard_reliable leafRow.indexed levels
  obtain ⟨branches, middle, fallback, between, branching, falling, way⟩ :=
    planPolymorphic_gives given
  obtain ⟨up, each⟩ := planBranches_assemble leafRow sized configured (fun _ member => member)
    branching
  have sizedMiddle : (Pass.mk pass.claims middle.nextRegister).claims.length =
      env.header.length := sized
  have falls : Yields row none (fun present => present = .null)
      (AssembledAs env row (standard env levels) site declared
        (Pass.mk pass.claims middle.nextRegister).claims) fallback between :=
    planFallback_assembles leafRow sizedMiddle configured falling
  have behind : middle.nextRegister ≤ between.nextRegister :=
    (planFallback_planned leafRow.indexed reliable sizedMiddle falling).block.onward.registers
  rcases way with ⟨fresh, rfl, rfl⟩ | ⟨existing, update, after, found, assigned, rfl, rfl⟩
  · rw [fresh]
    exact selection_yields each behind falls rfl
  · rw [found]
    have above : between.nextRegister + 1 ≤ after.nextRegister :=
      (climbs_planAssigned reliable.climbs).gives assigned
    have never : Yields row (some existing) (fun _ => False)
        (AssembledAs env row (standard env levels) site declared pass.claims) update between :=
      fun _ _ _ starts _ => (starts existing rfl).elim
    have creates : Yields row none (fun present => present = .null)
        (AssembledAs env row (standard env levels) site declared pass.claims)
        (selection branches fallback between.nextRegister) between.advanced :=
      selection_yields each behind falls rfl
    refine Yields.reuse never creates (fun value accepts same => ?_) ?_ ?_ (Nat.lt_succ_self _)
    · rw [same] at accepts
      cases accepts
    · exact Nat.le_trans (Nat.le_succ _) (Nat.le_trans above (Nat.le_succ _))
    · exact Nat.le_trans above (Nat.le_succ _)

theorem planObject_assembles (sized : pass.claims.length = env.header.length)
    (known : ∀ register, site.existing = some register → register < pass.nextRegister)
    (isObject : site.target = .object declared)
    (given : Gives (planObject env (standard env levels) site) pass (some program) next) :
    Yields row site.existing (fun present => present = .null)
      (AssembledAs env row (standard env levels) site declared pass.claims) program next := by
  rcases planObject_gives given with ⟨impossible, -⟩ | ⟨planned, other, same, isOther, way⟩
  · cases impossible
  cases same
  cases isObject.symm.trans isOther
  rcases way with ⟨unruled, single⟩ | ⟨own, configured, -, polymorphic⟩
  · refine (planSingle_assembles leafRow sized known single).mono fun value assembled => ?_
    exact ⟨_, _, Instantiates.single unruled, assembled⟩
  · exact planPolymorphic_assembles leafRow sized configured polymorphic

end Choices

end Planning

open Planning

/-! ## Inns

An inn counts its guests by rooms. A column for the whole inn is called like the member, and keeps
this name as the name of a room. -/

namespace Inns

def rooms : Property :=
  { name := "Rooms", target := .map (.scalar (.int .int32)) }

def inn : ObjectType :=
  ObjectTypeOf.declare 1 "Inn" false [rooms] 11 []

def columns : List Column :=
  [Column.declare "Rooms_Hall" (.int .int32), Column.declare "rooms_attic" (.int .int32),
    Column.declare "ROOMS_HALL" (.int .int32)]

def row : Row :=
  ⟨columns, [.int .int32 (.zero .int32), .int .int32 (.zero .int32), .int .int32 (.zero .int32)]⟩

def mixedColumns : List Column :=
  [Column.declare "Rooms" (.int .int32), Column.declare "Rooms_Rooms" (.int .int32)]

def mixedRow : Row :=
  ⟨mixedColumns, [.int .int32 (.zero .int32), .int .int32 (.zero .int32)]⟩

def env (columns : List Column) : Environment :=
  ⟨Header.ofColumns columns, {}, []⟩

def mapper? (columns : List Column) : Except Failure Mapper :=
  Mapper.make .standard [] (.object inn) (Header.ofColumns columns) {}

def mapped? (columns : List Column) (row : Row) : Except Failure Value :=
  (mapper? columns).bind fun mapper => mapper.map row

/-- How many guests the map of rooms counts. -/
def guests : Value → Option Nat
  | .object typeName fields =>
      match Object.get? ⟨typeName, fields⟩ "Rooms" with
      | some (.map entries) => some (Value.leafCountEntries entries)
      | _ => none
  | _ => none

theorem guests_some {value : Value} {count : Nat} (counted : guests value = some count) :
    ∃ object entries, value = Object.toValue object ∧ object.get? "Rooms" = some (.map entries) ∧
      Value.leafCountEntries entries = count := by
  unfold guests at counted
  split at counted
  · rename_i typeName fields
    split at counted
    · rename_i entries found
      cases counted
      exact ⟨⟨typeName, fields⟩, entries, rfl, found, rfl⟩
    · cases counted
  · cases counted

theorem mapped {columns : List Column} {row : Row} {count : Nat}
    (counted : (mapped? columns row).map guests = .ok (some count)) :
    ∃ mapper object entries, mapper? columns = .ok mapper ∧
      mapper.map row = .ok (Object.toValue object) ∧ object.get? "Rooms" = some (.map entries) ∧
      Value.leafCountEntries entries = count := by
  obtain ⟨value, done, isCount⟩ := Except.map_eq_ok counted
  obtain ⟨mapper, made, ran⟩ := Except.bind_eq_ok done
  obtain ⟨object, entries, rfl, field, leaves⟩ := guests_some isCount
  exact ⟨mapper, object, entries, made, ran, field, leaves⟩

end Inns

/-- What the nodes of arguments and properties claim for maps of leaves is in the maps of the
mapped object, whatever types and factories stand for the declared type, as long as claimed columns
of which the spellings leave out different parts are spelt differently. -/
theorem Mapper.map_keeps_columns {bindings : Bindings} {target : Target} {declared : ObjectType}
    {columns : List Column} {settings : Settings} {mapper : Mapper} {row : Row} {value : Value}
    {env : Environment} {site : Site}
    (isEnv : env = ⟨Header.ofColumns columns, settings, bindings⟩)
    (isSite : site = Site.atRoot bindings target)
    (isObject : target.resolve bindings = .object declared)
    (made : Mapper.make .standard bindings target (Header.ofColumns columns) settings =
      .ok mapper)
    (mapped : mapper.map row = .ok value) (keeps : settings.KeepsLeaves)
    (leaves : row.HoldsLeaves columns) :
    ∃ type factory initial object claims, Instantiates settings declared type factory ∧
      Makes env row (standard env deepestLevel) site type factory (Claims.none env.header) claims
        initial ∧
      value = Object.toValue object ∧
      ∀ (earlier later : List Property) (property : Property) (leaf : Leaf)
        (kind : Option DictionaryType), assigned type = earlier ++ property :: later →
        (∀ other ∈ earlier ++ later, other.name ≠ property.name) →
        property.target.IsMapOf leaf kind →
        ∃ before after,
          Turn env (standard env deepestLevel) site earlier property claims before after ∧
          ((scopeOf env site before property).SpeltApart
              (env.header.available before.claims (scopeOf env site before property)) →
            TurnHolds env site kind property before after initial object) := by
  obtain ⟨plan, planned, rfl⟩ := Except.map_eq_ok made
  have leafRow : LeafRow env row := by
    subst isEnv
    refine ⟨Header.ofColumns_wellIndexed columns, fun _ => Header.ofColumns_isFolded, keeps,
      fun column member => leaves _ ?_⟩
    have inside := (Header.ofColumns_wellIndexed columns).inside member
    rwa [Header.ofColumns_length] at inside
  subst isEnv isSite
  have sized : (Claims.none (Header.ofColumns columns)).length =
      (Header.ofColumns columns).length :=
    Claims.length_none _
  have assembled : AssembledAs ⟨Header.ofColumns columns, settings, bindings⟩ row
      (standard ⟨Header.ofColumns columns, settings, bindings⟩ deepestLevel)
      (Site.atRoot bindings target) declared (Claims.none (Header.ofColumns columns)) value := by
    refine Plan.run_yields leafRow.indexed planned mapped fun given => ?_
    obtain ⟨below, same, object⟩ := standard_planObject isObject given
    cases same
    exact planObject_assembles leafRow sized (Register.known_existing rfl (Nat.lt_succ_self _))
      isObject object
  obtain ⟨type, factory, instantiates, initial, object, claims, rfl, makes, turns⟩ := assembled
  exact ⟨type, factory, initial, object, claims, instantiates, makes, rfl, turns⟩

namespace Inns

variable {columns : List Column} {type : ObjectType} {factory : Option Factory}
variable {claims claimed : Claims} {object : Object} {recurse : Planner} {site : Site}

theorem instantiates_inn (instantiates : Instantiates {} inn type factory) :
    type = inn ∧ factory = none := by
  cases instantiates with
  | single unruled => exact ⟨rfl, rfl⟩
  | subtype configured member => cases configured
  | default configured isDefault => cases configured
  | declared configured noDefault => cases configured

theorem makes_blank {row : Row}
    (makes : Makes (env columns) row recurse site inn none claims claimed object) :
    object = inn.blank ∧ claimed = claims := by
  cases makes with
  | produced found made => cases found
  | constructed unmade chosen start arguments =>
      cases chosen
      cases arguments
      exact ⟨rfl, start⟩

theorem turn_claims {property : Property} {before after : Pass}
    (turn : Turn (env columns) recurse site [] property claims before after) :
    before.claims = claims := by
  obtain ⟨begins, turns, -⟩ := turn
  obtain ⟨-, rfl⟩ := gives_pure.mp turns
  exact begins

theorem scopeOf_rooms {pass : Pass} :
    scopeOf (env columns) (Site.atRoot [] (.object inn)) pass rooms =
      Scope.root.member "Rooms" "_" :=
  rfl

/-- The turn of the rooms, for which register 1 holds a new inn and register 2 the one to fill. -/
def roomsTurn (columns : List Column) : Except Failure (List Step) × Pass :=
  setMember (env columns) (standard (env columns) deepestLevel) (Site.atRoot [] (.object inn)) 2
    rooms ⟨Claims.none (Header.ofColumns columns), 3⟩

theorem turn_of_count (columns : List Column) (count : Nat)
    (succeeds : (roomsTurn columns).1.isOk = true)
    (counts : (roomsTurn columns).2.claims.count =
      (Claims.none (Header.ofColumns columns)).count + count) :
    ∃ before after, Turn (env columns) (standard (env columns) deepestLevel)
      (Site.atRoot [] (.object inn)) [] rooms (Claims.none (Header.ofColumns columns))
      before after ∧ before.claims.count + count = after.claims.count := by
  obtain ⟨steps, ok⟩ := Except.of_isOk succeeds
  exact ⟨_, _, Turn.intro rfl (gives_pure.mpr ⟨rfl, rfl⟩) (Prod.ext ok rfl), counts.symm⟩

end Inns

/-- The instance of an inn is blank, and its rooms have the first turn. -/
theorem Inns.rooms_held : ∃ mapper object entries before after,
    Inns.mapper? Inns.columns = .ok mapper ∧ mapper.map Inns.row = .ok (Object.toValue object) ∧
    object.get? "Rooms" = some (.map entries) ∧ Value.leafCountEntries entries = 3 ∧
    Turn (Inns.env Inns.columns) (standard (Inns.env Inns.columns) deepestLevel)
      (Site.atRoot [] (.object Inns.inn)) [] Inns.rooms
      (Claims.none (Header.ofColumns Inns.columns)) before after ∧
    before.claims.count + Value.leafCountEntries entries = after.claims.count := by
  have counted : (Inns.mapped? Inns.columns Inns.row).map Inns.guests = .ok (some 3) := by
    decide +kernel
  have leaves : Inns.row.HoldsLeaves Inns.columns := by decide +kernel
  obtain ⟨mapper, object, entries, made, mapped, field, count⟩ := Inns.mapped counted
  obtain ⟨type, factory, blank, result, claims, instantiates, makes, same, turns⟩ :=
    Mapper.map_keeps_columns (rfl : Inns.env Inns.columns = _) rfl rfl made mapped
      (fun rule member => by cases member) leaves
  cases Object.toValue_injective same
  obtain ⟨rfl, rfl⟩ := Inns.instantiates_inn instantiates
  obtain ⟨rfl, rfl⟩ := Inns.makes_blank makes
  obtain ⟨before, after, turn, holds⟩ := turns [] [] Inns.rooms _ none rfl (by simp)
    (Target.IsMapOf.map rfl)
  have apart : (scopeOf (Inns.env Inns.columns) (Site.atRoot [] (.object Inns.inn)) before
      Inns.rooms).SpeltApart ((Inns.env Inns.columns).header.available before.claims
        (scopeOf (Inns.env Inns.columns) (Site.atRoot [] (.object Inns.inn)) before
          Inns.rooms)) := by
    refine Header.available_speltApart (fun _ => Header.ofColumns_isFolded) ?_ ?_
    · rw [Inns.scopeOf_rooms, Inns.turn_claims turn]
      decide +kernel
    · rw [Inns.scopeOf_rooms]
      decide +kernel
  refine ⟨mapper, object, entries, before, after, made, mapped, field, count, turn, ?_⟩
  rcases holds apart with ⟨-, kept⟩ | ⟨filled, -, only⟩
  · cases field.symm.trans kept
  · obtain ⟨others, isMap, whole⟩ := only ⟨.null, rfl, Or.inl rfl⟩ fun start isNew => by
      cases isNew
      rfl
    cases field.symm.trans (filled.trans (congrArg some isMap))
    exact whole

/-- Two guests are claimed and one is counted: both columns are spelt `Rooms`. -/
theorem Inns.room_lost : ∃ mapper object entries before after,
    Inns.mapper? Inns.mixedColumns = .ok mapper ∧
    mapper.map Inns.mixedRow = .ok (Object.toValue object) ∧
    object.get? "Rooms" = some (.map entries) ∧ Value.leafCountEntries entries = 1 ∧
    Turn (Inns.env Inns.mixedColumns) (standard (Inns.env Inns.mixedColumns) deepestLevel)
      (Site.atRoot [] (.object Inns.inn)) [] Inns.rooms
      (Claims.none (Header.ofColumns Inns.mixedColumns)) before after ∧
    before.claims.count + 2 = after.claims.count := by
  have counted : (Inns.mapped? Inns.mixedColumns Inns.mixedRow).map Inns.guests =
      .ok (some 1) := by
    decide +kernel
  obtain ⟨mapper, object, entries, made, mapped, field, count⟩ := Inns.mapped counted
  obtain ⟨before, after, turn, claimed⟩ := Inns.turn_of_count Inns.mixedColumns 2
    (by decide +kernel) (by decide +kernel)
  exact ⟨mapper, object, entries, before, after, made, mapped, field, count, turn, claimed⟩

end Unflatten
