import Unflatten.Proofs.Flattening.Flatten
import Unflatten.Proofs.Planning.Assembly
import Unflatten.Proofs.Program.Outcomes

/-!
# Rebuilding instances

A scope covers an instance if its columns are those of the flattened instance. Then the scope of a
nested property covers the nested instance, the column of a scalar property is the only one of its
name, and the columns of different properties are different.

The standard strategy plans every record type that its columns cover, and a run of what it plans
succeeds with the instance that the columns were flattened from. Each property finds its own columns
unclaimed, since the columns of different properties are different. What the planner of object types
does for a place in a tree of records follows if the planner of members does so for the places below
it, and the standard strategy therefore does so at every place within its levels.
-/

set_option autoImplicit false

namespace Unflatten

/-! ## Columns of a flattened instance -/

/-- The column is named and typed as that of the cell, and the row holds the value there. -/
structure HeaderColumn.Shows (row : Row) (column : HeaderColumn) (cell : Column × Value) :
    Prop where
  folded : column.folded = foldName cell.1.name
  type : column.type = cell.1.type
  value : row.value column.index = cell.2

/-- The columns of the scope are those of the flattened instance. -/
structure Covers (header : Header) (row : Row) (bindings : Bindings) (separator : Char)
    (scope : Scope) (type : ObjectType) (path : List String) (value : Value) : Prop where
  sound : ∀ column ∈ header, scope.contains column = true →
    ∃ cell ∈ flatten bindings separator.toString type path value, column.Shows row cell
  complete : ∀ cell ∈ flatten bindings separator.toString type path value,
    ∃ column ∈ header, column.Shows row cell

/-- A place in a tree of records: the scope that a path leads to covers the instance there. -/
structure Place (header : Header) (row : Row) (bindings : Bindings) (separator : Char)
    (depth : Nat) (scope : Scope) (type : ObjectType) (path : List String) (value : Value) :
    Prop where
  ascii : separator.toNat < 0x80
  isAt : scope.IsAt separator path
  nests : NestsWithin bindings separator depth type
  whole : IsWhole bindings type value
  covers : Covers header row bindings separator scope type path value

namespace Place

variable {header : Header} {row : Row} {bindings : Bindings} {separator : Char} {depth : Nat}
variable {scope : Scope} {type : ObjectType} {path : List String} {value : Value}
variable {property other : Property} {column : HeaderColumn} {cell : Column × Value}

theorem segment (place : Place header row bindings separator depth scope type path value)
    (member : property ∈ type.properties) : IsSegment separator property.name :=
  place.nests.record.segments property member

theorem cell_folded (place : Place header row bindings separator depth scope type path value)
    (member : property ∈ type.properties)
    (isCell : IsCellOf bindings separator path property (value.field property.name) cell) :
    ∃ rest, rest ≠ [] ∧ (foldName cell.1.name).toList = scope.lead.toList ++ rest ∧
      firstSegment separator rest = (foldName property.name).toList := by
  have segment := place.segment member
  obtain ⟨more, segments, named⟩ : ∃ more, (∀ step ∈ more, IsSegment separator step) ∧
      cell.1.name = Text.join separator.toString (path ++ property.name :: more) := by
    rcases isCell with ⟨scalar, -, rfl⟩ | ⟨inner, isObject, inside⟩
    · exact ⟨[], by simp, rfl⟩
    · obtain ⟨less, -, within⟩ := place.nests.inner member isObject
      obtain ⟨rest, -, segments, named⟩ :=
        flatten_named within (place.whole.nested member isObject) inside
      refine ⟨rest, segments, ?_⟩
      rw [named]
      simp
  have steps : ∀ step ∈ property.name :: more, IsSegment separator step := by
    intro step isStep
    rcases List.mem_cons.mp isStep with rfl | isStep
    · exact segment
    · exact segments step isStep
  have starts := firstSegment_join more segment
  refine ⟨_, ?_, named ▸ place.isAt.folded place.ascii (by simp) steps, starts⟩
  intro nothing
  rw [nothing] at starts
  exact segment.folded_some starts.symm

/-- A column of the scope belongs to the property whose name comes first in it. -/
theorem owner (place : Place header row bindings separator depth scope type path value)
    (member : property ∈ type.properties) (isColumn : column ∈ header)
    (inside : scope.contains column = true) {rest : List Char}
    (folded : column.folded.toList = scope.lead.toList ++ rest)
    (starts : firstSegment separator rest = (foldName property.name).toList) :
    ∃ cell, IsCellOf bindings separator path property (value.field property.name) cell ∧
      column.Shows row cell := by
  obtain ⟨cell, isCell, shows⟩ := place.covers.sound column isColumn inside
  obtain ⟨other, isOther, isCell⟩ := (mem_flatten place.nests.record place.whole).mp isCell
  obtain ⟨more, -, named, alsoStarts⟩ := place.cell_folded isOther isCell
  rw [← shows.folded, folded, List.append_cancel_left_eq] at named
  rw [named, alsoStarts] at starts
  obtain rfl := place.nests.record.same isOther member starts
  exact ⟨cell, isCell, shows⟩

theorem member_owner (place : Place header row bindings separator depth scope type path value)
    (member : property ∈ type.properties) (isColumn : column ∈ header)
    (inside : (scope.member property.name separator.toString).contains column = true) :
    scope.contains column = true ∧
      ∃ cell, IsCellOf bindings separator path property (value.field property.name) cell ∧
        column.Shows row cell := by
  obtain ⟨rest, some, folded, starts⟩ :=
    place.isAt.segment place.ascii (place.segment member) inside
  have contained := place.isAt.contains folded some
  exact ⟨contained, place.owner member isColumn contained folded starts⟩

theorem member_same (place : Place header row bindings separator depth scope type path value)
    (isProperty : property ∈ type.properties) (isOther : other ∈ type.properties)
    (inside : (scope.member property.name separator.toString).contains column = true)
    (alsoInside : (scope.member other.name separator.toString).contains column = true) :
    property = other := by
  obtain ⟨rest, -, folded, starts⟩ :=
    place.isAt.segment place.ascii (place.segment isProperty) inside
  obtain ⟨more, -, alsoFolded, alsoStarts⟩ :=
    place.isAt.segment place.ascii (place.segment isOther) alsoInside
  rw [folded, List.append_cancel_left_eq] at alsoFolded
  rw [alsoFolded, alsoStarts] at starts
  exact (place.nests.record.same isOther isProperty starts).symm

theorem inner (place : Place header row bindings separator depth scope type path value)
    {nested : ObjectType} (member : property ∈ type.properties)
    (isObject : property.target.resolve bindings = .object nested) :
    ∃ less, depth = less + 1 ∧
      Place header row bindings separator less (scope.member property.name separator.toString)
        nested (path ++ [property.name]) (value.field property.name) := by
  obtain ⟨less, same, within⟩ := place.nests.inner member isObject
  refine ⟨less, same, place.ascii, place.isAt.member place.ascii (place.segment member), within,
    place.whole.nested member isObject, fun column isColumn inside => ?_, fun cell isCell => ?_⟩
  · obtain ⟨-, cell, ⟨scalar, isScalar, -⟩ | ⟨inner, alsoObject, isCell⟩, shows⟩ :=
      place.member_owner member isColumn inside
    · rw [Target.primitive?_object isObject] at isScalar
      cases isScalar
    · cases isObject.symm.trans alsoObject
      exact ⟨cell, isCell, shows⟩
  · exact place.covers.complete cell ((mem_flatten place.nests.record place.whole).mpr
      ⟨property, member, Or.inr ⟨nested, isObject, isCell⟩⟩)

/-! ## Columns that are found -/

section Scalars

variable {scalar : ScalarType}

theorem scalar_column (place : Place header row bindings separator depth scope type path value)
    (member : property ∈ type.properties) (isScalar : property.target.primitive? = some scalar) :
    ∃ column ∈ header, column.folded.toList =
      scope.lead.toList ++ (foldName property.name).toList := by
  obtain ⟨column, isColumn, shows⟩ := place.covers.complete
    (Column.declare (Text.join separator.toString (path ++ [property.name])) scalar,
      value.field property.name)
    ((mem_flatten place.nests.record place.whole).mpr
      ⟨property, member, Or.inl ⟨scalar, isScalar, rfl⟩⟩)
  have segment := place.segment member
  refine ⟨column, isColumn, ?_⟩
  rw [shows.folded]
  simp only [Column.declare]
  rw [place.isAt.folded place.ascii (by simp) (by simpa using segment), Text.join_single,
    segment.folded]

theorem scalar_inside (place : Place header row bindings separator depth scope type path value)
    (folded : column.folded.toList = scope.lead.toList ++ (foldName property.name).toList) :
    (scope.member property.name separator.toString).contains column = true :=
  (place.isAt.contains_member place.ascii).mpr (Or.inl folded)

theorem find?_scalar (place : Place header row bindings separator depth scope type path value)
    {claims : Claims} (member : property ∈ type.properties)
    (isScalar : property.target.primitive? = some scalar)
    (free : ∀ column ∈ header,
      (scope.member property.name separator.toString).contains column = true →
        claims.isClaimed column.index = false) :
    ∃ column, header.find? claims scope (foldName property.name) = some column ∧
      column ∈ header ∧
      (scope.member property.name separator.toString).contains column = true ∧
      column.type = scalar ∧ row.value column.index = value.field property.name := by
  have segment := place.segment member
  have isSome : (header.find? claims scope (foldName property.name)).isSome = true := by
    obtain ⟨column, isColumn, folded⟩ := place.scalar_column member isScalar
    have unclaimed := free column isColumn (place.scalar_inside folded)
    rw [Header.find?, List.find?_isSome]
    refine ⟨column, ?_, ?_⟩
    · rw [Header.available, List.mem_filter, unclaimed,
        place.isAt.contains folded segment.folded_some]
      exact ⟨isColumn, rfl⟩
    · rw [beq_iff_eq, ← String.toList_inj, place.isAt.nameWithin folded segment.folded_some]
  obtain ⟨column, found⟩ := Option.isSome_iff_exists.mp isSome
  have available := List.mem_of_find?_eq_some found
  rw [Header.available, List.mem_filter, Bool.and_eq_true] at available
  obtain ⟨isColumn, -, inside⟩ := available
  have named : scope.nameWithin column = foldName property.name := by
    simpa using List.find?_some found
  obtain ⟨cell, isCell, shows⟩ := place.covers.sound column isColumn inside
  obtain ⟨other, isOther, isCell⟩ := (mem_flatten place.nests.record place.whole).mp isCell
  obtain ⟨rest, some, folded, -⟩ := place.cell_folded isOther isCell
  rw [← shows.folded] at folded
  have same := place.isAt.nameWithin folded some
  rw [named] at same
  rw [← same] at folded
  have alone := place.scalar_inside folded
  obtain ⟨-, cell, ⟨kind, isKind, rfl⟩ | ⟨inner, isObject, -⟩, shows⟩ :=
    place.member_owner member isColumn alone
  · cases isScalar.symm.trans isKind
    exact ⟨column, found, isColumn, alone, shows.type, shows.value⟩
  · rw [Target.primitive?_object isObject] at isScalar
    cases isScalar

theorem available_some (place : Place header row bindings separator depth scope type path value)
    {claims : Claims}
    (free : ∀ column ∈ header, scope.contains column = true →
      claims.isClaimed column.index = false) :
    (header.available claims scope).isEmpty = false := by
  obtain ⟨property, member, isScalar⟩ := place.nests.record.scalar
  obtain ⟨scalar, isScalar⟩ := Option.isSome_iff_exists.mp isScalar
  obtain ⟨column, isColumn, folded⟩ := place.scalar_column member isScalar
  have inside := place.isAt.contains folded (place.segment member).folded_some
  rw [List.isEmpty_eq_false_iff_exists_mem]
  refine ⟨column, ?_⟩
  rw [Header.available, List.mem_filter, free column isColumn inside, inside]
  exact ⟨isColumn, rfl⟩

end Scalars

end Place

/-! ## Plans of records -/

/-- Where there is no existing value, a run succeeds with the value. -/
def Rebuilds (row : Row) (existing : Option Register) (program : Program) (next : Pass)
    (value : Value) : Prop :=
  ∀ registers : Registers, next.nextRegister ≤ registers.size →
    (∀ register, existing = some register → registers.get register = .null) →
    ∃ finished, runSteps row registers program.steps = .ok finished ∧
      finished.get program.result = value

/-- A run of the steps succeeds and turns one value of a register into another. -/
def Turns (row : Row) (target : Register) (steps : List Step) (next : Pass)
    (before after : Value) : Prop :=
  ∀ registers : Registers, next.nextRegister ≤ registers.size → registers.get target = before →
    ∃ finished, runSteps row registers steps = .ok finished ∧ finished.get target = after

/-- Among the columns of the header only these are claimed on the way. -/
def ClaimsWithin (header : Header) (pass next : Pass) (owns : HeaderColumn → Prop) : Prop :=
  ∀ column ∈ header, next.claims.isClaimed column.index = true →
    pass.claims.isClaimed column.index = true ∨ owns column

namespace ClaimsWithin

variable {header : Header} {pass middle next : Pass} {owns others : HeaderColumn → Prop}

theorem mono (claims : ClaimsWithin header pass next owns)
    (implies : ∀ column ∈ header, owns column → others column) :
    ClaimsWithin header pass next others := by
  intro column isColumn claimed
  exact (claims column isColumn claimed).imp_right (implies column isColumn)

theorem trans (first : ClaimsWithin header pass middle owns)
    (second : ClaimsWithin header middle next owns) : ClaimsWithin header pass next owns := by
  intro column isColumn claimed
  rcases second column isColumn claimed with between | owned
  · exact first column isColumn between
  · exact Or.inr owned

end ClaimsWithin

section Rules

variable {row : Row} {existing : Option Register} {program : Program} {target : Register}
variable {pass middle next : Pass} {value before between after : Value} {steps : List Step}

theorem rebuilds_iff :
    Rebuilds row existing program next value ↔
      Evaluates row existing program next (some value) := by
  simp only [Rebuilds, Evaluates, runTo_eq_some]

theorem turns_iff :
    Turns row target steps next before after ↔
      Alters row target steps next before (some after) := by
  simp only [Turns, Alters, runTo_eq_some]

theorem Rebuilds.filled {start : Program} (onward : middle.nextRegister ≤ next.nextRegister)
    (starts : Rebuilds row existing start middle before)
    (turns : Turns row start.result steps next before after) :
    Rebuilds row existing ⟨start.steps ++ steps, start.result⟩ next after := by
  rw [rebuilds_iff] at starts ⊢
  refine Evaluates.filled onward starts (fun value same => ?_) (fun failed => by cases failed)
  cases same
  exact turns_iff.mp turns

theorem Turns.nil : Turns row target [] next before before :=
  turns_iff.mpr Alters.nil

theorem Turns.append {left right : List Step} (onward : middle.nextRegister ≤ next.nextRegister)
    (first : Turns row target left middle before between)
    (second : Turns row target right next between after) :
    Turns row target (left ++ right) next before after := by
  rw [turns_iff] at first ⊢
  refine Alters.append onward first (fun value same => ?_) (fun failed => by cases failed)
  cases same
  exact turns_iff.mp second

theorem Turns.assigned {item : Program} {field : String} (planned : Planned none pass item next)
    (rebuilds : Rebuilds row none item next value) (known : target < pass.nextRegister) :
    Turns row target (item.steps ++ [.assign target field item.result]) next before
      (before.setField field value) :=
  turns_iff.mpr (Alters.assigned planned (rebuilds_iff.mp rebuilds) known)

/-- A nested instance is built although the old field is offered for an update, as it is null. -/
theorem Turns.projected {item : Program} {field : String}
    (planned : Planned (some pass.nextRegister) pass.advanced item next)
    (rebuilds : Rebuilds row (some pass.nextRegister) item next value)
    (known : target < pass.nextRegister) (isNull : before.field field = .null) :
    Turns row target
      (.project target field pass.nextRegister ::
        (item.steps ++ [.assign target field item.result])) next before
      (before.setField field value) :=
  turns_iff.mpr <| Alters.projected planned (rebuilds_iff.mp rebuilds) known
    fun _ same => ⟨(Option.some.inj same).symm, isNull⟩

end Rules

/-! ## Record types -/

theorem Target.defaultValue_object {target : Target} {bindings : Bindings} {inner : ObjectType}
    (isObject : target.resolve bindings = .object inner) : target.defaultValue = .null := by
  cases target with
  | reference ref => rfl
  | object type => rfl
  | _ => cases isObject

theorem ObjectTypeOf.IsRecord.chooses {separator : Char} {type : ObjectType}
    (record : type.IsRecord separator) (view : View) (settings : Settings) :
    ∃ constructor, type.chooseConstructor none view settings = .ok constructor ∧
      constructor.parameters = [] ∧ constructor.construct type [] = type.blank := by
  obtain ⟨implicit, declared⟩ := record.implicit
  have isConcrete : type.isAbstract = false := by
    rw [declared]
    rfl
  obtain ⟨owner, constructors⟩ : ∃ owner,
      type.constructors = [⟨implicit, owner, true, false, [], none⟩] := by
    rw [declared]
    exact ⟨type.name, by simp [ObjectTypeOf.declare]⟩
  refine ⟨⟨implicit, owner, true, false, [], none⟩, ?_, rfl, rfl⟩
  simp [ObjectTypeOf.chooseConstructor, isConcrete, constructors, View.best?, View.score?]

namespace Planning

variable {env : Environment} {row : Row} {separator : Char} {recurse : Planner} {site : Site}
variable {pass next : Pass} {depth levels : Nat} {type : ObjectType} {path : List String}
variable {value : Value} {target : Register}

/-- The columns of the scope are not claimed yet. -/
def Free (env : Environment) (scope : Scope) (pass : Pass) : Prop :=
  ∀ column ∈ env.header, scope.contains column = true →
    pass.claims.isClaimed column.index = false

/-- The planner succeeds at the site with a program that rebuilds the value, and it claims columns
of the site only. -/
def Restores (env : Environment) (row : Row) (planner : Planner) (site : Site) (pass : Pass)
    (value : Value) : Prop :=
  ∃ program next, Gives (planner site) pass (some program) next ∧
    Rebuilds row site.existing program next value ∧
    ClaimsWithin env.header pass next fun column => site.scope.contains column = true

/-- Only the separator is set, and members are restored at places with so many levels below. -/
structure Restoring (env : Environment) (row : Row) (separator : Char) (levels : Nat)
    (recurse : Planner) : Prop where
  settings : env.settings = { separator := separator.toString }
  indexed : env.header.WellIndexed
  reliable : Reliable env recurse
  restores : ∀ {depth : Nat} {site : Site} {type : ObjectType} {path : List String}
    {value : Value} {pass : Pass}, depth < levels →
    Place env.header row env.bindings separator depth site.scope type path value →
    site.target = .object type → pass.claims.length = env.header.length →
    (∀ register, site.existing = some register → register < pass.nextRegister) →
    Free env site.scope pass → Restores env row recurse site pass value

theorem Free.after {scope : Scope} {owns : HeaderColumn → Prop} (free : Free env scope pass)
    (claims : ClaimsWithin env.header pass next owns)
    (apart : ∀ column, scope.contains column = true → ¬ owns column) : Free env scope next := by
  intro column isColumn inside
  cases claimed : next.claims.isClaimed column.index with
  | false => rfl
  | true =>
      rcases claims column isColumn claimed with earlier | owned
      · rw [free column isColumn inside] at earlier
        cases earlier
      · exact absurd owned (apart column inside)

/-! ## Properties -/

section Reading

variable {column : HeaderColumn} {leaf : Leaf} {program : Program}

theorem read_rebuilds {existing : Option Register}
    (converts : readColumn row ⟨column.index, column.name⟩
      (Conversion.select env.rules leaf column.type) = .ok value)
    (given : Gives (read env column leaf) pass program next) :
    Rebuilds row existing program next value := by
  have evaluates := @read_evaluates env row pass next existing program leaf column given
  rw [converts] at evaluates
  exact rebuilds_iff.mpr evaluates

theorem read_claims {owns : HeaderColumn → Prop} (indexed : env.header.WellIndexed)
    (sized : pass.claims.length = env.header.length) (isColumn : column ∈ env.header)
    (owned : owns column) (given : Gives (read env column leaf) pass program next) :
    ClaimsWithin env.header pass next owns := by
  obtain ⟨-, rfl⟩ := gives_read.mp given
  intro other isOther claimed
  have inside : column.index < pass.claims.length := by
    rw [sized]
    exact indexed.inside isColumn
  rcases (Claims.isClaimed_claim inside other.index).mp claimed with same | earlier
  · obtain rfl := List.inj_on_of_nodup_map indexed.nodup isOther isColumn same
    exact Or.inr owned
  · exact Or.inl earlier

end Reading

section Properties

variable (restoring : Restoring env row separator levels recurse)
variable (place :
  Place env.header row env.bindings separator depth site.scope type path value)
variable (deep : depth ≤ levels)
include restoring place

theorem setProperty_scalar {property : Property} {scalar : ScalarType} {before : Value}
    (member : property ∈ type.properties) (isScalar : property.target.primitive? = some scalar)
    (sized : pass.claims.length = env.header.length) (known : target < pass.nextRegister)
    (free : Free env (site.scope.member property.name separator.toString) pass) :
    ∃ steps next, Gives (setProperty env recurse site target property) pass steps next ∧
      Turns row target steps next before
        (before.setField property.name (value.field property.name)) ∧
      ClaimsWithin env.header pass next fun column =>
        (site.scope.member property.name separator.toString).contains column = true := by
  obtain ⟨leaf, isLeaf, kind⟩ := Target.primitive?_some isScalar
  have plain : property.target.leaf?.filter (fun leaf => !leaf.isAny) = some leaf := by
    have notAny : leaf.isAny = false := by
      unfold Leaf.scalarType? at kind
      unfold Leaf.isAny
      split at kind
      · rename_i isKind
        rw [isKind]
      · cases kind
    rw [isLeaf]
    simp [notAny]
  obtain ⟨column, found, isColumn, inside, same, cell⟩ := place.find?_scalar member isScalar free
  have reads : Gives (read env column leaf) pass _ _ := gives_read.mpr ⟨rfl, rfl⟩
  have planned := (read_planned (Header.find?_unclaimed restoring.indexed sized found) reads).1
  have rules : env.rules = ConversionRule.inOrder [] := by
    rw [Environment.rules, restoring.settings]
  have default : property.target.defaultValue = leaf.defaultValue := by
    rw [Target.defaultValue, isLeaf]
  have converts : readColumn row ⟨column.index, column.name⟩
      (Conversion.select env.rules leaf column.type) = .ok (value.field property.name) := by
    have holds := place.whole.scalar member isScalar
    rw [default] at holds
    rw [readColumn, rules, same]
    simp only [cell]
    rw [Conversion.select_same kind holds]
  refine ⟨_, _, ?_, Turns.assigned planned (read_rebuilds converts reads) known,
    read_claims restoring.indexed sized isColumn inside reads⟩
  refine setProperty_leaf plain ?_
  rw [found]
  exact gives_bind.mpr ⟨_, _, reads, gives_pure.mpr ⟨rfl, rfl⟩⟩

include deep in
theorem setProperty_nested {property : Property} {inner : ObjectType} {before : Value}
    (member : property ∈ type.properties)
    (isObject : property.target.resolve env.bindings = .object inner)
    (sized : pass.claims.length = env.header.length) (known : target < pass.nextRegister)
    (free : Free env (site.scope.member property.name separator.toString) pass)
    (isNull : before.field property.name = .null) :
    ∃ steps next, Gives (setProperty env recurse site target property) pass steps next ∧
      Turns row target steps next before
        (before.setField property.name (value.field property.name)) ∧
      ClaimsWithin env.header pass next fun column =>
        (site.scope.member property.name separator.toString).contains column = true := by
  obtain ⟨less, rfl, below⟩ := place.inner member isObject
  have separated : env.settings.separator = separator.toString := by
    rw [restoring.settings]
  have noLeaf : property.target.leaf?.filter (fun leaf => !leaf.isAny) = none := by
    cases isTarget : property.target with
    | reference ref => rfl
    | object type => rfl
    | _ =>
        rw [isTarget] at isObject
        cases isObject
  have isScope : (site.member env property.name property.target (some pass.nextRegister)).scope =
      site.scope.member property.name separator.toString := by
    rw [← separated]
    rfl
  rw [← isScope] at below free
  have existing : ∀ register,
      (site.member env property.name property.target (some pass.nextRegister)).existing =
        some register → register < pass.advanced.nextRegister :=
    Register.known_existing rfl (Nat.lt_succ_self _)
  have stillSized : pass.advanced.claims.length = env.header.length := sized
  obtain ⟨program, next, given, rebuilds, claims⟩ :=
    restoring.restores deep below isObject stillSized existing free
  have planned := restoring.reliable.plans stillSized existing given
  refine ⟨_, next, setProperty_member noLeaf given,
    Turns.projected planned rebuilds known isNull, ?_⟩
  rw [← isScope]
  exact claims

include deep in
theorem setProperty_turns {property : Property} {object : Object}
    (member : property ∈ type.properties) (sized : pass.claims.length = env.header.length)
    (known : target < pass.nextRegister)
    (free : Free env (site.scope.member property.name separator.toString) pass)
    (isNull : ∀ inner, property.target.resolve env.bindings = .object inner →
      object.get? property.name = some .null) :
    ∃ steps next, Gives (setProperty env recurse site target property) pass steps next ∧
      Turns row target steps next object.toValue
        (object.set property.name (value.field property.name)).toValue ∧
      ClaimsWithin env.header pass next fun column =>
        (site.scope.member property.name separator.toString).contains column = true := by
  rcases place.nests.kinds member with ⟨scalar, isScalar⟩ | ⟨inner, isObject⟩
  · exact setProperty_scalar restoring place member isScalar sized known free
  · have empty : object.toValue.field property.name = .null := by
      have blank := isNull inner isObject
      rw [Object.get?] at blank
      simp only [Object.toValue, Value.field, Object.getIgnoringCase?, blank, Option.getD_some]
    exact setProperty_nested restoring place deep member isObject sized known free empty

include deep in
/-- Each property of the list finds its columns unclaimed, whatever the earlier ones have claimed.
-/
theorem setEach_turns {properties : List Property} {object : Object}
    (members : ∀ property ∈ properties, property ∈ type.properties)
    (distinct : properties.Pairwise fun one other => one.name ≠ other.name)
    (sized : pass.claims.length = env.header.length) (known : target < pass.nextRegister)
    (free : ∀ property ∈ properties,
      Free env (site.scope.member property.name separator.toString) pass)
    (isNull : ∀ property ∈ properties, ∀ inner,
      property.target.resolve env.bindings = .object inner →
        object.get? property.name = some .null) :
    ∃ steps next, Gives (setEach (setProperty env recurse site target) properties) pass steps next ∧
      Turns row target steps next object.toValue
        (fillFields (fun property => value.field property.name) properties object).toValue ∧
      ClaimsWithin env.header pass next fun column => ∃ property ∈ properties,
        (site.scope.member property.name separator.toString).contains column = true := by
  have planned {property : Property} {pass next : Pass} {steps : List Step}
      (sized : pass.claims.length = env.header.length) (known : target < pass.nextRegister)
      (given : Gives (setProperty env recurse site target property) pass steps next) :
      Block [target] [target] pass steps next :=
    setProperty_planned restoring.indexed restoring.reliable sized known given
  induction properties generalizing pass object with
  | nil =>
      exact ⟨[], pass, gives_pure.mpr ⟨rfl, rfl⟩, Turns.nil, fun _ _ claimed => Or.inl claimed⟩
  | cons property rest ih =>
      have member := members property (by simp)
      obtain ⟨apart, distinct⟩ := List.pairwise_cons.mp distinct
      obtain ⟨first, middle, set, turns, claims⟩ := setProperty_turns restoring place deep member
        sized known (free property (by simp)) (isNull property (by simp))
      have onward := (planned sized known set).onward
      have stillSized := onward.length.trans sized
      have stillKnown := Nat.lt_of_lt_of_le known onward.registers
      have stillFree : ∀ other ∈ rest,
          Free env (site.scope.member other.name separator.toString) middle := by
        intro other isOther
        refine (free other (by simp [isOther])).after claims fun column inside owned => ?_
        have same := place.member_same member (members other (by simp [isOther])) owned inside
        exact apart other isOther (by rw [same])
      have stillNull : ∀ other ∈ rest, ∀ inner,
          other.target.resolve env.bindings = .object inner →
            (object.set property.name (value.field property.name)).get? other.name =
              some .null := by
        intro other isOther inner isObject
        refine (Entries.get?_insert_of_ne _ _ (apart other isOther).symm).trans ?_
        exact isNull other (by simp [isOther]) inner isObject
      obtain ⟨others, next, setRest, turnsRest, claimsRest⟩ :=
        ih (fun other isOther => members other (by simp [isOther])) distinct stillSized stillKnown
          stillFree stillNull
      have upward := (setEach_planned planned stillSized stillKnown setRest).onward
      refine ⟨first ++ others, next, setEach_next set setRest,
        Turns.append upward.registers turns turnsRest, ?_⟩
      refine ClaimsWithin.trans (claims.mono fun column _ inside => ?_)
        (claimsRest.mono fun column _ owned => ?_)
      · exact ⟨property, by simp, inside⟩
      · obtain ⟨other, isOther, inside⟩ := owned
        exact ⟨other, by simp [isOther], inside⟩

include deep in
theorem setProperties_turns (sized : pass.claims.length = env.header.length)
    (known : target < pass.nextRegister) (free : Free env site.scope pass) :
    ∃ steps next, Gives (setProperties env recurse site type target) pass steps next ∧
      Turns row target steps next type.blank.toValue value ∧
      ClaimsWithin env.header pass next fun column => site.scope.contains column = true := by
  have record := place.nests.record
  have freeBelow : ∀ property ∈ type.properties,
      Free env (site.scope.member property.name separator.toString) pass := by
    intro property member column isColumn inside
    exact free column isColumn (place.member_owner member isColumn inside).1
  have isNull : ∀ property ∈ type.properties, ∀ inner,
      property.target.resolve env.bindings = .object inner →
        type.blank.get? property.name = some .null := by
    intro property member inner isObject
    rw [ObjectTypeOf.blank_eq, fillFields_same record.names_distinct member,
      Target.defaultValue_object isObject]
  obtain ⟨steps, next, set, turns, claims⟩ := setEach_turns restoring place deep
    (fun property member => member) record.names_distinct sized known freeBelow isNull
  rw [place.whole.filled record] at turns
  refine ⟨steps, next, setProperties_all record.assignable record.noSinks set, turns,
    claims.mono fun column isColumn owned => ?_⟩
  obtain ⟨property, member, inside⟩ := owned
  exact (place.member_owner member isColumn inside).1

end Properties

/-! ## Instances -/

section Instances

variable (restoring : Restoring env row separator levels recurse)
variable (place :
  Place env.header row env.bindings separator depth site.scope type path value)
include restoring place

theorem planInstance_blank (pass : Pass) :
    ∃ program next, Gives (planInstance env recurse site type none) pass program next ∧
      Rebuilds row none program next type.blank.toValue ∧ next.claims = pass.claims := by
  have noPolicy : env.settings.ofType? type.name = none := by
    rw [restoring.settings]
    rfl
  obtain ⟨constructor, chosen, noParameters, constructs⟩ :=
    place.nests.record.chooses ⟨env.header, pass.claims, site.scope⟩ env.settings
  have unmade : (env.settings.ofType? type.name).bind TypePolicy.factory = none := by
    rw [noPolicy]
    rfl
  have planned : Gives (planArguments env recurse site constructor.parameters) pass [] pass := by
    rw [noParameters]
    exact gives_pure.mpr ⟨rfl, rfl⟩
  rw [← noPolicy] at chosen
  have builds := (@Gathers.nil row pass).constructs type constructor
  rw [gathered, Option.map_some, constructs] at builds
  exact ⟨_, _, planInstance_constructs unmade chosen planned, rebuilds_iff.mpr builds, rfl⟩

end Instances

section Objects

variable (restoring : Restoring env row separator levels recurse)
variable (place :
  Place env.header row env.bindings separator depth site.scope type path value)
variable (deep : depth ≤ levels)
include restoring place deep

theorem planObject_restores (isObject : site.target = .object type)
    (sized : pass.claims.length = env.header.length)
    (known : ∀ register, site.existing = some register → register < pass.nextRegister)
    (free : Free env site.scope pass) :
    Restores env row (planObject env recurse) site pass value := by
  have noPolicy : env.settings.ofType? type.name = none := by
    rw [restoring.settings]
    rfl
  obtain ⟨create, middle, created, creates, sameClaims⟩ :=
    planInstance_blank restoring place pass
  obtain ⟨start, between, started, starts, stillSame⟩ :=
    reuseOrCreate_evaluates site .object (rebuilds_iff.mp creates)
  have isNew := planInstance_planned restoring.indexed restoring.reliable sized created
  have planned := reuseOrCreate_planned known isNew started
  have stillSized := planned.block.onward.length.trans sized
  have unchanged : between.claims = pass.claims := stillSame.trans sameClaims
  have stillFree : Free env site.scope between := by
    rw [Free, unchanged]
    exact free
  obtain ⟨steps, next, set, turns, claims⟩ :=
    setProperties_turns restoring place deep stillSized planned.below stillFree
  have onward := (setProperties_planned restoring.indexed restoring.reliable stillSized
    planned.below set).onward
  have unpolicied : ∀ own, env.settings.ofType? type.name = some own → own.subtypes = [] := by
    intro own found
    rw [noPolicy] at found
    cases found
  have present : (!site.isRoot && (env.header.available pass.claims site.scope).isEmpty) =
      false := by
    rw [place.available_some free, Bool.and_false]
  have single : Gives (planSingle env recurse site type (env.settings.ofType? type.name)) pass
      ⟨start.steps ++ steps, start.result⟩ next := by
    rw [noPolicy]
    exact planSingle_assigned rfl rfl created started set
  refine ⟨_, next, planObject_single isObject present unpolicied single,
    Rebuilds.filled onward.registers (rebuilds_iff.mpr starts) turns, ?_⟩
  rw [ClaimsWithin, unchanged] at claims
  exact claims

end Objects

/-! ## The standard strategy -/

theorem standard_restores (settings : env.settings = { separator := separator.toString })
    (indexed : env.header.WellIndexed) (levels : Nat) :
    Restoring env row separator levels (standard env levels) := by
  induction levels with
  | zero =>
      refine ⟨settings, indexed, standard_reliable indexed 0, ?_⟩
      intro depth site type path value pass impossible
      cases impossible
  | succ levels ih =>
      refine ⟨settings, indexed, standard_reliable indexed (levels + 1), ?_⟩
      intro depth site type path value pass deep place isObject sized known free
      obtain ⟨program, next, planned, rebuilds, claims⟩ := planObject_restores ih place
        (Nat.le_of_lt_succ deep) isObject sized known free
      exact ⟨program, next, standardPlanners_object isObject planned, rebuilds, claims⟩

end Planning

end Unflatten
