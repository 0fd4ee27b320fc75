import Unflatten.Proofs.Planning.Assembly
import Unflatten.Proofs.Planning.LocalObjects
import Unflatten.Proofs.Updates.InPlace

/-!
# Updates set what has a column

Where an instance exists already, a property is set from the column of its name if that column is
left for it. The claims of the way that makes a new instance are not given back, so an argument of
the constructor may have taken the column; for a type with subtype rules they are.
-/

set_option autoImplicit false

namespace Unflatten

open Planning

/-! ## Columns that stay free -/

/-- Both have claimed the column, or neither has. -/
def Claims.Spare (column : HeaderColumn) (claims others : Claims) : Prop :=
  others.isClaimed column.index = claims.isClaimed column.index

/-- The argument is planned from other columns. -/
structure ParameterOf.Spares (settings : Settings) (column : HeaderColumn)
    (parameter : Parameter) : Prop where
  name : column.folded ≠ foldName parameter.name
  members : parameter.target.leaf? = none →
    Text.startsWith column.folded (foldName parameter.name ++ foldName settings.separator) = false
  sink : parameter.isSink = true → column.folded ≠ foldName settings.sentinel

/-- The column is the first of the name of a leaf property, and no other property may take it. -/
structure Header.Offers (header : Header) (separator : String) (type : ObjectType)
    (property : Property) (leaf : Leaf) (column : HeaderColumn) : Prop where
  member : property ∈ type.properties
  assignable : property.isAssignable = true
  isPlain : property.isSink = false
  isLeaf : property.target.leaf? = some leaf
  typed : leaf.isAny = false
  named : header.named? property.name = some column
  distinct : (type.properties.map fun other => foldName other.name).Nodup
  apart : ∀ other ∈ type.properties, foldName other.name ≠ foldName property.name →
    Text.startsWith (foldName property.name) (foldName other.name ++ foldName separator) = false

namespace Header

variable {header : Header} {claims : Claims} {name : String} {column : HeaderColumn}

theorem find?_named (found : header.named? name = some column)
    (free : claims.isClaimed column.index = false) :
    header.find? claims .root (foldName name) = some column := by
  obtain ⟨named, earlier, later, split, others⟩ := List.find?_eq_some_iff_append.mp found
  rw [Header.find?, available, List.find?_filter, List.find?_eq_some_iff_append]
  refine ⟨?_, earlier, later, split, fun other member => ?_⟩
  · rw [Scope.root_contains, Scope.root_nameWithin, free, named]
    rfl
  · have differs : (other.folded == foldName name) = false := by
      simpa using others other member
    rw [Scope.root_nameWithin, differs]
    simp

theorem find?_folded (found : header.find? claims .root (foldName name) = some column) :
    column ∈ header ∧ column.folded = foldName name := by
  have named := List.find?_some found
  rw [Scope.root_nameWithin, beq_iff_eq] at named
  exact ⟨(mem_available (List.mem_of_find?_eq_some found)).1, named⟩

namespace Offers

variable {separator : String} {type : ObjectType} {property : Property} {leaf : Leaf}

theorem filtered (offers : header.Offers separator type property leaf column) :
    (property.target.leaf?.filter fun leaf => !leaf.isAny) = some leaf := by
  rw [offers.isLeaf, Option.filter_some, offers.typed]
  rfl

theorem isColumn (offers : header.Offers separator type property leaf column) : column ∈ header :=
  (named?_some offers.named).1

theorem uncovered (offers : header.Offers separator type property leaf column) {other : Property}
    (isOther : other ∈ type.properties) (differs : foldName other.name ≠ foldName property.name) :
    ¬ (Scope.root.member other.name separator).Covers column := by
  rw [Scope.root_member_covers, (named?_some offers.named).2]
  rintro (same | starts)
  · exact differs same.symm
  · rw [offers.apart other isOther differs] at starts
    cases starts

end Offers

end Header

namespace Planning

variable {env : Environment} {recurse : Planner} {site : Site} {pass next : Pass}
variable {column : HeaderColumn} {program : Program} {result : Option Program}

section Spare

variable (indexed : env.header.WellIndexed) (planLocal : Local env 0 recurse)
variable (isColumn : column ∈ env.header)

include indexed isColumn in
theorem read_spare {other : HeaderColumn} {leaf : Leaf} (isOther : other ∈ env.header)
    (sized : pass.claims.length = env.header.length) (differs : column.folded ≠ other.folded)
    (given : Gives (read env other leaf) pass program next) :
    Claims.Spare column pass.claims next.claims := by
  obtain ⟨-, rfl⟩ := gives_read.mp given
  have inside : other.index < pass.claims.length := sized ▸ indexed.inside isOther
  have apart : column.index ≠ other.index := by
    intro same
    rw [List.inj_on_of_nodup_map indexed.nodup isColumn isOther same] at differs
    exact differs rfl
  rw [Claims.Spare, Bool.eq_iff_iff, Claims.isClaimed_claim inside]
  simp [apart]

include planLocal isColumn

theorem site_spare (sized : pass.claims.length = env.header.length)
    (uncovered : ¬ site.scope.Covers column) (given : Gives (recurse site) pass result next) :
    Claims.Spare column pass.claims next.claims := by
  have agree : pass.Agree env site.scope 0 pass := ⟨rfl, sized, sized, fun _ _ _ => rfl⟩
  exact (planLocal site pass pass agree).here_given given column isColumn uncovered

include indexed

theorem planSink_spare {target : Target} (sized : pass.claims.length = env.header.length)
    (isNamed : column.folded ≠ foldName env.settings.sentinel)
    (given : Gives (planSink env recurse site target) pass result next) :
    Claims.Spare column pass.claims next.claims := by
  rcases planSink_gives given with ⟨-, rfl⟩ | given
  · rfl
  · refine site_spare planLocal isColumn sized (fun covers => ?_) given
    obtain ⟨other, isOther, same⟩ := List.mem_map.mp (Scope.among_covers.mp covers)
    obtain ⟨isAvailable, nameless⟩ := List.mem_filter.mp isOther
    rw [← List.inj_on_of_nodup_map indexed.nodup (Header.mem_available isAvailable).1 isColumn same,
      beq_iff_eq.mp nameless] at isNamed
    exact isNamed rfl

section Arguments

variable (atRoot : site.scope = .root) {parameter : Parameter}
include atRoot

theorem planNamedArgument_spare (sized : pass.claims.length = env.header.length)
    (spares : parameter.Spares env.settings column)
    (given : Gives (planNamedArgument env recurse site parameter) pass result next) :
    Claims.Spare column pass.claims next.claims := by
  rcases planNamedArgument_gives given with ⟨-, rfl⟩ | ⟨leaf, other, _, -, -, found, reads⟩ |
    ⟨notLeaf, member⟩
  · rfl
  · rw [atRoot] at found
    obtain ⟨isOther, named⟩ := Header.find?_folded found
    exact read_spare indexed isColumn isOther sized (named ▸ spares.name) reads
  · refine site_spare planLocal isColumn sized ?_ member
    rw [Site.member, atRoot, Scope.root_member_covers]
    rintro (same | starts)
    · exact spares.name same
    · rw [spares.members notLeaf] at starts
      cases starts

theorem planArgument_spare (reliable : Reliable env recurse)
    (sized : pass.claims.length = env.header.length) (spares : parameter.Spares env.settings column)
    (given : Gives (planArgument env recurse site parameter) pass program next) :
    Claims.Spare column pass.claims next.claims := by
  rcases planArgument_gives given with named | ⟨middle, declined, way⟩
  · exact planNamedArgument_spare indexed planLocal isColumn atRoot sized spares named
  · obtain rfl := planNamedArgument_declines reliable declined
    rcases way with ⟨isSink, sink⟩ | ⟨between, absent | unused, default⟩
    · exact planSink_spare indexed planLocal isColumn sized (spares.sink isSink) sink
    · obtain ⟨-, rfl⟩ := gives_constant.mp default
      rw [absent]
      rfl
    · obtain ⟨-, rfl⟩ := gives_constant.mp default
      rw [planSink_declines reliable unused]
      rfl

theorem planArguments_spare (reliable : Reliable env recurse) {parameters : List Parameter}
    {arguments : List Program} (sized : pass.claims.length = env.header.length)
    (spares : ∀ parameter ∈ parameters, parameter.Spares env.settings column)
    (given : Gives (planArguments env recurse site parameters) pass arguments next) :
    Claims.Spare column pass.claims next.claims := by
  induction parameters generalizing pass arguments with
  | nil =>
      obtain ⟨-, rfl⟩ := gives_pure.mp given
      rfl
  | cons parameter rest ih =>
      obtain ⟨first, middle, others, argument, later, -⟩ := planArguments_cons given
      have onward := (planArgument_planned indexed reliable sized argument).block.onward
      have spared := planArgument_spare indexed planLocal isColumn atRoot reliable sized
        (spares parameter (by simp)) argument
      exact (ih (onward.length.trans sized) (fun other member => spares other (by simp [member]))
        later).trans spared

theorem planInstance_spare (reliable : Reliable env recurse) {type : ObjectType}
    {factory : Option Factory} (sized : pass.claims.length = env.header.length)
    (spares : ∀ constructor, factoryFor env type factory = none →
      type.chooseConstructor (env.settings.ofType? type.name)
        ⟨env.header, pass.claims, .root⟩ env.settings = .ok constructor →
      ∀ parameter ∈ constructor.parameters, parameter.Spares env.settings column)
    (given : Gives (planInstance env recurse site type factory) pass program next) :
    Claims.Spare column pass.claims next.claims := by
  rcases planInstance_gives given with ⟨_, -, rfl, -⟩ |
    ⟨noFactory, constructor, arguments, middle, chosen, planned, rfl, -⟩
  · rfl
  · rw [atRoot] at chosen
    have spared := planArguments_spare indexed planLocal isColumn atRoot reliable sized
      (spares constructor noFactory chosen) planned
    exact spared

theorem setProperty_spare {target : Register} {property : Property} {steps : List Step}
    (sized : pass.claims.length = env.header.length)
    (uncovered : ¬ (Scope.root.member property.name env.settings.separator).Covers column)
    (given : Gives (setProperty env recurse site target property) pass steps next) :
    Claims.Spare column pass.claims next.claims := by
  rcases setProperty_gives given with ⟨leaf, -, ⟨-, rfl⟩ | ⟨other, _, reads, found, -⟩⟩ |
    ⟨-, _, member, -⟩
  · rfl
  · rw [atRoot] at found
    obtain ⟨isOther, named⟩ := Header.find?_folded found
    refine read_spare indexed isColumn isOther sized (fun same => uncovered ?_) reads
    exact Scope.root_member_covers.mpr (Or.inl (same.trans named))
  · have spared : Claims.Spare column pass.advanced.claims next.claims := by
      refine site_spare planLocal isColumn sized ?_ member
      rw [Site.member, atRoot]
      exact uncovered
    exact spared

end Arguments

end Spare

end Planning

/-! ## Objects with a field -/

def Value.IsObject (value : Value) : Prop :=
  ∃ object : Object, value = object.toValue

/-- The cell could be read, and the field of an object holds it. -/
def Value.Holds (name : String) (cell : Except Failure Value) (value : Value) : Prop :=
  ∃ object found, value = Object.toValue object ∧ cell = .ok found ∧ object.get? name = some found

theorem Value.IsObject.setField {held : Value} (isObject : held.IsObject) (name : String)
    (value : Value) : (held.setField name value).IsObject := by
  obtain ⟨object, rfl⟩ := isObject
  exact ⟨object.set name value, rfl⟩

theorem Value.Holds.setField {held value : Value} {name other : String}
    {cell : Except Failure Value} (holds : held.Holds name cell) (differs : other ≠ name) :
    (held.setField other value).Holds name cell := by
  obtain ⟨object, found, rfl, isFound, isField⟩ := holds
  refine ⟨object.set other value, found, rfl, isFound, ?_⟩
  exact (Entries.get?_insert_of_ne _ _ differs.symm).trans isField

theorem Value.IsObject.setField_holds {held found : Value} {name : String}
    {cell : Except Failure Value} (isObject : held.IsObject) (isFound : cell = .ok found) :
    (held.setField name found).Holds name cell := by
  obtain ⟨object, rfl⟩ := isObject
  exact ⟨object.set name found, found, rfl, isFound, Entries.get?_insert_self _ _ _⟩

namespace Planning

variable {env : Environment} {recurse : Planner} {row : Row} {site : Site} {pass next : Pass}
variable {type : ObjectType} {property : Property} {target : Register} {steps : List Step}
variable {column : HeaderColumn} {leaf : Leaf} {invariant : Value → Prop}

/-- The cell of the column, as a value of the leaf. -/
def cellOf (env : Environment) (row : Row) (column : HeaderColumn) (leaf : Leaf) :
    Except Failure Value :=
  readColumn row ⟨column.index, column.name⟩ (Conversion.select env.rules leaf column.type)

theorem read_cell {program : Program} (given : Gives (read env column leaf) pass program next) :
    Yields row none (fun _ => True) (fun cell => cellOf env row column leaf = .ok cell) program
      next := by
  obtain ⟨rfl, rfl⟩ := gives_read.mp given
  exact Yields.outcome _ (fun registers => by rw [runStep, cellOf]) rfl fun value made => made

section Properties

variable (indexed : env.header.WellIndexed)
variable (isLeaf : (property.target.leaf?.filter fun leaf => !leaf.isAny) = some leaf)
variable (named : env.header.named? property.name = some column) (atRoot : site.scope = .root)
include indexed isLeaf named atRoot

theorem setProperty_sets (sized : pass.claims.length = env.header.length)
    (known : target < pass.nextRegister) (free : pass.claims.isClaimed column.index = false)
    (given : Gives (setProperty env recurse site target property) pass steps next) :
    Brings row target Value.IsObject (Value.Holds property.name (cellOf env row column leaf)) steps
      next := by
  have found := Header.find?_named named free
  rw [← atRoot] at found
  have reads : Gives (read env column leaf) pass _ _ := gives_read.mpr ⟨rfl, rfl⟩
  -- Only one column can be read here, so the plan is known.
  have sets := @setProperty_leaf env recurse site pass _ leaf property target _ isLeaf (by
    rw [found]
    exact gives_bind.mpr ⟨_, _, reads, gives_pure.mpr ⟨rfl, rfl⟩⟩)
  cases given.symm.trans sets
  have planned := (read_planned (Header.find?_unclaimed indexed sized found) reads).1
  exact Brings.added (fun held => held.setField property.name) planned (read_cell reads) known
    (fun registers => by rw [runStep]) fun held value holds made => holds.setField_holds made

variable (reliable : Reliable env recurse) (planLocal : Local env 0 recurse)
include reliable planLocal

/-- The column of a property stays free until its turn, and the field is not set again. -/
theorem setEach_sets {properties : List Property} (member : property ∈ properties)
    (distinct : (properties.map fun property => foldName property.name).Nodup)
    (apart : ∀ other ∈ properties, foldName other.name ≠ foldName property.name →
      ¬ (Scope.root.member other.name env.settings.separator).Covers column)
    (sized : pass.claims.length = env.header.length) (known : target < pass.nextRegister)
    (free : pass.claims.isClaimed column.index = false)
    (given : Gives (setEach (setProperty env recurse site target) properties) pass steps next) :
    Brings row target Value.IsObject (Value.Holds property.name (cellOf env row column leaf)) steps
      next := by
  have planned {property : Property} {pass next : Pass} {steps : List Step}
      (sized : pass.claims.length = env.header.length) (known : target < pass.nextRegister)
      (given : Gives (setProperty env recurse site target property) pass steps next) :
      Block [target] [target] pass steps next :=
    setProperty_planned indexed reliable sized known given
  induction properties generalizing pass steps with
  | nil => cases member
  | cons first rest ih =>
      obtain ⟨here, middle, others, assigned, later, rfl⟩ := setEach_cons given
      have onward := (planned sized known assigned).onward
      have stillSized := onward.length.trans sized
      have stillKnown := Nat.lt_of_lt_of_le known onward.registers
      have onwardRest := (setEach_planned planned stillSized stillKnown later).onward
      rw [List.map_cons, List.nodup_cons] at distinct
      -- The property itself is set here; another one leaves its column free.
      rcases List.mem_cons.mp member with rfl | isRest
      · refine Brings.append onwardRest.registers
          (setProperty_sets indexed isLeaf named atRoot sized known free assigned) ?_
        refine setEach_keeps planned (fun other isOther _ _ _ sized known given => ?_) stillSized
          stillKnown later
        refine setProperty_stable indexed reliable sized known
          (fun held value holds => holds.setField fun same => ?_) given
        exact distinct.1 (List.mem_map.mpr ⟨other, isOther, congrArg foldName same⟩)
      · have differs : foldName first.name ≠ foldName property.name := by
          intro same
          exact distinct.1 (List.mem_map.mpr ⟨property, isRest, same.symm⟩)
        have spared := setProperty_spare indexed planLocal (Header.named?_some named).1 atRoot sized
          (apart first (by simp) differs) assigned
        refine Brings.append onwardRest.registers (setProperty_stable indexed reliable sized known
          (fun held value isObject => isObject.setField _ _) assigned) ?_
        exact ih isRest distinct.2 (fun other isOther => apart other (by simp [isOther])) stillSized
          stillKnown (spared.trans free) later

end Properties

section Objects

variable {declared : ObjectType} {program : Program} {register : Register} {before : Object}
variable (indexed : env.header.WellIndexed) (reliable : Reliable env recurse)
variable (planLocal : Local env 0 recurse) (atRoot : site.scope = .root)
variable (sized : pass.claims.length = env.header.length)
variable (free : pass.claims.isClaimed column.index = false)
include indexed reliable planLocal atRoot sized free

/-- Sinks come last, and each has a field of its own. -/
theorem setProperties_sets (known : target < pass.nextRegister)
    (offers : env.header.Offers env.settings.separator type property leaf column)
    (given : Gives (setProperties env recurse site type target) pass steps next) :
    Brings row target Value.IsObject (Value.Holds property.name (cellOf env row column leaf)) steps
      next := by
  obtain ⟨plain, middle, sinks, planPlain, planSinks, rfl⟩ := setProperties_gives given
  have plainPlanned := setEach_planned
    (fun sized known given => setProperty_planned indexed reliable sized known given)
    sized known planPlain
  have stillSized := plainPlanned.onward.length.trans sized
  have stillKnown := Nat.lt_of_lt_of_le known plainPlanned.onward.registers
  have sinksPlanned := setEach_planned
    (fun sized known given => setSink_planned reliable sized known given)
    stillSized stillKnown planSinks
  have fewer : (plainProperties type).Sublist type.properties :=
    List.filter_sublist.trans List.filter_sublist
  have isPlainProperty : property ∈ plainProperties type := by
    simp [plainProperties, offers.member, offers.assignable, offers.isPlain]
  refine Brings.append sinksPlanned.onward.registers
    (setEach_sets indexed offers.filtered offers.named atRoot reliable planLocal isPlainProperty
      (offers.distinct.sublist (fewer.map _))
      (fun other isOther => offers.uncovered (fewer.subset isOther)) sized known free planPlain) ?_
  refine setEach_keeps
    (fun sized known given => setSink_planned reliable sized known given)
    (fun sink isSinkProperty _ _ _ sized known given => ?_) stillSized stillKnown planSinks
  obtain ⟨isAssignable, isSink⟩ := List.mem_filter.mp isSinkProperty
  refine setSink_stable reliable sized known (fun held value holds => holds.setField fun same => ?_)
    given
  have alike := List.inj_on_of_nodup_map offers.distinct (List.mem_of_mem_filter isAssignable)
    offers.member (congrArg foldName same)
  rw [alike, offers.isPlain] at isSink
  cases isSink

variable (isThere : site.existing = some register)
include isThere

theorem planSingle_sets {own : Option TypePolicy}
    (offers : env.header.Offers env.settings.separator (concreteOf declared own) property leaf
      column)
    (spares : ∀ constructor,
      factoryFor env (concreteOf declared own) (own.bind TypePolicy.factory) = none →
      (concreteOf declared own).chooseConstructor
          (env.settings.ofType? (concreteOf declared own).name)
          ⟨env.header, pass.claims, .root⟩ env.settings = .ok constructor →
      ∀ parameter ∈ constructor.parameters, parameter.Spares env.settings column)
    (given : Gives (planSingle env recurse site declared own) pass program next) :
    Yields row (some register) (fun present => present = before.toValue)
      (Value.Holds property.name (cellOf env row column leaf)) program next := by
  refine planSingle_changes indexed reliable sized isThere
    (fun {create middle _ _} created set => ?_) given
  have stillSized : middle.advanced.claims.length = env.header.length :=
    (planInstance_planned indexed reliable sized created).block.onward.length.trans sized
  have spared := planInstance_spare indexed planLocal offers.isColumn atRoot reliable sized spares
    created
  exact Brings.narrow (setProperties_sets indexed reliable planLocal atRoot stillSized
    (spared.trans free) (Nat.lt_succ_self _) offers set) fun value same => ⟨before, same⟩

/-- The claims of the branches are given back before the instance that exists is updated. -/
theorem planPolymorphic_sets {own : TypePolicy} (known : register < pass.nextRegister)
    (offers : env.header.Offers env.settings.separator declared property leaf column)
    (given : Gives (planPolymorphic env recurse site declared own) pass program next) :
    Yields row (some register) (fun present => present = before.toValue)
      (Value.Holds property.name (cellOf env row column leaf)) program next := by
  refine planPolymorphic_changes indexed reliable sized isThere known
    (fun {first _ _} knownHere set => ?_) given
  have sizedUpdate : (Pass.mk pass.claims first).claims.length = env.header.length := sized
  exact Brings.narrow (setProperties_sets indexed reliable planLocal atRoot sizedUpdate free
    knownHere offers set) fun value same => ⟨before, same⟩

end Objects

end Planning

/-! ## Mappers -/

/-- New instances of the type come from the constructor: they are made neither by factories nor
under subtype rules. -/
structure Environment.Constructs (env : Environment) (declared : ObjectType)
    (constructor : Constructor) : Prop where
  unruled : ∀ own, env.settings.ofType? declared.name = some own → own.subtypes = []
  unmade : factoryFor env (env.settings.updatedType declared)
    ((env.settings.ofType? declared.name).bind TypePolicy.factory) = none
  chosen : (env.settings.updatedType declared).chooseConstructor
    (env.settings.ofType? (env.settings.updatedType declared).name)
    ⟨env.header, Claims.none env.header, .root⟩ env.settings = .ok constructor

theorem Plan.update_holds {env : Environment} {target : Target} {declared : ObjectType} {plan : Plan}
    {row : Row} {before : Object} {value : Value} {property : Property} {leaf : Leaf}
    {column : HeaderColumn} (indexed : env.header.WellIndexed)
    (isObject : target.resolve env.bindings = .object declared)
    (planned : Plan.ofTarget .standard env target = .ok plan)
    (ran : plan.run row before.toValue = .ok value)
    (offers : env.header.Offers env.settings.separator (env.settings.updatedType declared) property
      leaf column)
    (spares : ∀ constructor, env.Constructs declared constructor →
      ∀ parameter ∈ constructor.parameters, parameter.Spares env.settings column) :
    value.Holds property.name (cellOf env row column leaf) := by
  have sized : (Claims.none env.header).length = env.header.length :=
    Claims.length_none _
  have free : (Claims.none env.header).isClaimed column.index = false :=
    Claims.isClaimed_none _ _
  refine Plan.run_yields indexed planned ran fun given => ?_
  obtain ⟨below, same, object⟩ := standard_planObject isObject given
  have reliable : Reliable env (standard env below) := standard_reliable indexed _
  have planLocal : Local env 0 (standard env below) := standard_local indexed _
  rcases planObject_updates isObject object with ⟨unruled, isType, single⟩ |
    ⟨own, isType, polymorphic⟩
  · have spared (constructor : Constructor) (unmade : _) (chosen : _) :=
      spares constructor ⟨unruled, unmade, chosen⟩
    rw [isType] at offers spared
    exact planSingle_sets indexed reliable planLocal rfl sized free rfl offers spared single
  · rw [isType] at offers
    exact planPolymorphic_sets indexed reliable planLocal rfl sized free rfl (Nat.lt_succ_self _)
      offers polymorphic

/-! ## Accounts

An account is opened with a number. The row tells of another number and another owner. -/

namespace Accounts

def opening : Constructor :=
  { ident := 11, owner := "Account", parameters := [{ name := "id", target := .scalar .string }] }

def id : Property :=
  { name := "Id", target := .scalar .string }

def owner : Property :=
  { name := "Owner", target := .scalar .string }

def account : ObjectType :=
  ObjectTypeOf.declare 1 "Account" false [id, owner] 12 [opening]

def columns : List Column :=
  [Column.declare "Id" .string, Column.declare "owner" .string]

def row : Row :=
  ⟨columns, [.string "B-2", .string "Bo"]⟩

def existing : Object :=
  ⟨"Account", [("Id", .string "A-1"), ("Owner", .string "Ada")]⟩

def mapper? : Except Failure Mapper :=
  Mapper.make .standard [] (.object account) (Header.ofColumns columns) {}

def updated? : Except Failure Value :=
  mapper?.bind fun mapper => mapper.update row existing.toValue

def text : Value → Option String
  | .string text => some text
  | _ => none

theorem updated : ∃ mapper value, mapper? = .ok mapper ∧
    mapper.update row existing.toValue = .ok value ∧ text (value.field "Id") = some "A-1" := by
  have kept : updated?.map (fun value => text (value.field "Id")) = .ok (some "A-1") := by
    decide +kernel
  obtain ⟨value, done, isText⟩ := Except.map_eq_ok kept
  obtain ⟨mapper, made, ran⟩ := Except.bind_eq_ok done
  exact ⟨mapper, value, made, ran, isText⟩

def idColumn : HeaderColumn :=
  ⟨0, "Id", "id", .string, ScalarType.string.name⟩

def ownerColumn : HeaderColumn :=
  ⟨1, "owner", "owner", .string, ScalarType.string.name⟩

theorem offered {property : Property} {column : HeaderColumn}
    (either : property = id ∧ column = idColumn ∨ property = owner ∧ column = ownerColumn) :
    (Header.ofColumns columns).Offers "_" account property ⟨.scalar .string, false⟩ column := by
  have distinct : (account.properties.map fun other => foldName other.name).Nodup := by
    decide +kernel
  rcases either with ⟨rfl, rfl⟩ | ⟨rfl, rfl⟩
  · exact ⟨by simp [account, ObjectTypeOf.declare], rfl, rfl, rfl, rfl, by decide +kernel, distinct,
      by decide +kernel⟩
  · exact ⟨by simp [account, ObjectTypeOf.declare], rfl, rfl, rfl, rfl, by decide +kernel, distinct,
      by decide +kernel⟩

theorem owner_spared (constructor : Constructor)
    (constructs : Environment.Constructs ⟨Header.ofColumns columns, {}, []⟩ account constructor) :
    ∀ parameter ∈ constructor.parameters, parameter.Spares {} ownerColumn := by
  have chosen : account.chooseConstructor none
      ⟨Header.ofColumns columns, Claims.none (Header.ofColumns columns), .root⟩ {} =
        .ok opening := rfl
  cases chosen.symm.trans constructs.chosen
  intro parameter member
  obtain rfl := List.mem_singleton.mp member
  refine ⟨by decide +kernel, fun noLeaf => ?_, fun isSink => ?_⟩
  · cases noLeaf
  · cases isSink

end Accounts

/-- A row updates every leaf property that has a column, also under subtype rules, unless the
constructor for a new instance takes that column. -/
theorem Mapper.update_sets {bindings : Bindings} {target : Target} {declared : ObjectType}
    {columns : List Column} {settings : Settings} {mapper : Mapper} {row : Row} {before : Object}
    {value : Value} {property : Property} {leaf : Leaf} {column : HeaderColumn}
    (isObject : target.resolve bindings = .object declared)
    (made : Mapper.make .standard bindings target (Header.ofColumns columns) settings =
      .ok mapper)
    (updated : mapper.update row before.toValue = .ok value)
    (offers : (Header.ofColumns columns).Offers settings.separator (settings.updatedType declared)
      property leaf column)
    (spares : ∀ constructor,
      Environment.Constructs ⟨Header.ofColumns columns, settings, bindings⟩ declared constructor →
      ∀ parameter ∈ constructor.parameters, parameter.Spares settings column) :
    ∃ after cell, value = Object.toValue after ∧
      readColumn row ⟨column.index, column.name⟩
        (Conversion.select (ConversionRule.inOrder settings.rules) leaf column.type) = .ok cell ∧
      after.get? property.name = some cell := by
  obtain ⟨plan, planned, rfl⟩ := Except.map_eq_ok made
  exact Plan.update_holds (Header.ofColumns_wellIndexed columns) isObject planned updated offers
    spares

theorem Accounts.owner_set : ∃ mapper after, Accounts.mapper? = .ok mapper ∧
    mapper.update Accounts.row Accounts.existing.toValue = .ok (Object.toValue after) ∧
    after.get? "Owner" = some (.string "Bo") := by
  obtain ⟨mapper, value, made, ran, -⟩ := Accounts.updated
  have isObject : (Target.object Accounts.account).resolve [] = .object Accounts.account := rfl
  obtain ⟨after, cell, rfl, isCell, isOwner⟩ := Mapper.update_sets isObject made ran
    (Accounts.offered (Or.inr ⟨rfl, rfl⟩)) Accounts.owner_spared
  have bo : readColumn Accounts.row ⟨1, "owner"⟩
      (Conversion.select (ConversionRule.inOrder []) ⟨.scalar .string, false⟩ .string) =
        .ok (.string "Bo") := rfl
  cases bo.symm.trans isCell
  exact ⟨mapper, after, made, ran, isOwner⟩

/-- The number of an account stays what it was: the argument of the constructor has claimed its
column, although no account is opened. -/
theorem Accounts.id_stays : ∃ mapper after, Accounts.mapper? = .ok mapper ∧
    mapper.update Accounts.row Accounts.existing.toValue = .ok (Object.toValue after) ∧
    (Header.ofColumns Accounts.columns).Offers "_" Accounts.account Accounts.id
      ⟨.scalar .string, false⟩ Accounts.idColumn ∧
    ¬ ∃ cell,
      readColumn Accounts.row ⟨Accounts.idColumn.index, Accounts.idColumn.name⟩
        (Conversion.select (ConversionRule.inOrder []) ⟨.scalar .string, false⟩
          Accounts.idColumn.type) = .ok cell ∧
      after.get? "Id" = some cell := by
  obtain ⟨mapper, value, made, ran, kept⟩ := Accounts.updated
  cases value with
  | object typeName fields =>
      refine ⟨mapper, ⟨typeName, fields⟩, made, ran, Accounts.offered (Or.inl ⟨rfl, rfl⟩), ?_⟩
      rintro ⟨cell, isCell, isId⟩
      have other : readColumn Accounts.row ⟨0, "Id"⟩
          (Conversion.select (ConversionRule.inOrder []) ⟨.scalar .string, false⟩ .string) =
            .ok (.string "B-2") := rfl
      cases other.symm.trans isCell
      have isField : Value.field (.object typeName fields) "Id" = .string "B-2" :=
        Object.field_toValue isId
      rw [isField] at kept
      exact absurd kept (by decide)
  | _ => cases kept

end Unflatten
