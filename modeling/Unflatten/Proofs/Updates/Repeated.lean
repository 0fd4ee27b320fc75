import Unflatten.Mapper
import Unflatten.Proofs.Keys.Objects
import Unflatten.Proofs.Rows.WholeRow
import Unflatten.Proofs.Updates.Filling

/-!
# Repeated updates

A row that is mapped onto what it has been mapped to gives the same again, unless something is added
to: lists and collections grow, and a name that two properties share is written twice. An instance
is made only where none is there yet, so what the second run makes is never new.
-/

set_option autoImplicit false

namespace Unflatten

open Planning

/-- Lists and collections are added to, and where a type has subtype rules an existing instance is
updated as an instance of the declared type. -/
def Target.IsSettled (settings : Settings) : Target → Prop
  | .object type => ∀ own, settings.ofType? type.name = some own → own.subtypes = []
  | .list _ | .sequence _ | .dictionary _ => False
  | _ => True

/-- No two properties that are set have the same name. -/
def Target.IsRepeatable (settings : Settings) (target : Target) : Prop :=
  target.IsSettled settings ∧ ∀ type, target = .object type →
    ((type.properties.filter PropertyOf.isAssignable).map PropertyOf.name).Nodup

/-! ## Changes that start with a value -/

theorem Change.reused_steady {expectation : Expectation} {created : Option Value} {change : Change}
    (creates : ∀ value, created = some value → expectation.accepts value = true)
    (settles : ∀ before after, expectation.accepts before = true → change before = some after →
      expectation.accepts after = true ∧ change after = some after) :
    Change.Steady fun value =>
      (if expectation.accepts value then some value else created).bind change := by
  intro before after given
  obtain ⟨start, started, changed⟩ := Option.bind_eq_some_iff.mp given
  have accepted : expectation.accepts start = true := by
    split at started
    · rename_i isAccepted
      cases started
      exact isAccepted
    · exact creates start started
  obtain ⟨stillAccepted, stays⟩ := settles start after accepted changed
  dsimp only
  rw [if_pos stillAccepted, Option.bind_some, stays]

/-! ## Planners whose updates settle -/

/-- Where an update is planned, it is a steady change. -/
structure Settling (env : Environment) (row : Row) (recurse : Planner) : Prop where
  reliable : Reliable env recurse
  steady : ∀ {site : Site} {pass next : Pass} {program : Program} {register : Register},
    pass.claims.length = env.header.length → site.existing = some register →
    register < pass.nextRegister →
    site.target.Everywhere env.bindings env.settings (Target.IsRepeatable env.settings) →
    Gives (recurse site) pass (some program) next →
      ∃ meaning : Change, Means row (some register) pass program next meaning ∧ meaning.Steady

namespace Planning

variable {env : Environment} {recurse : Planner} {row : Row} {site : Site} {pass middle next : Pass}
variable {program create : Program} {register target : Register} {steps : List Step}
variable {type : ObjectType} {property : Property}

theorem steady_of_new (row : Row) (planned : Planned none pass program next) :
    ∃ meaning : Change, Means row (some register) pass program next meaning ∧ meaning.Steady := by
  obtain ⟨meaning, means⟩ := planned.exists_means row
  exact ⟨_, means.ofNew, fun _ _ given => given⟩

/-! ## Properties -/

section Properties

variable (indexed : env.header.WellIndexed) (settling : Settling env row recurse)
variable (sized : pass.claims.length = env.header.length) (known : target < pass.nextRegister)
include indexed settling sized known

theorem setProperty_fieldChange
    (repeatable : property.target.Everywhere env.bindings env.settings
      (Target.IsRepeatable env.settings))
    (given : Gives (setProperty env recurse site target property) pass steps next) :
    ∃ change : FieldChange, change.name = property.name ∧ change.Steady ∧
      Changes row target pass steps next change.apply := by
  have idle : ∃ change : FieldChange, change.name = property.name ∧ change.Steady ∧
      Changes row target pass [] next change.apply :=
    ⟨⟨property.name, none⟩, rfl, nofun, Changes.nil⟩
  rcases setProperty_gives given with ⟨leaf, -, way⟩ | ⟨-, found, isMember, rfl⟩
  · rcases way with ⟨rfl, -⟩ | ⟨column, value, isRead, found, rfl⟩
    · exact idle
    · have planned := (read_planned (Header.find?_unclaimed indexed sized found) isRead).1
      obtain ⟨meaning, means⟩ := planned.exists_means row
      refine ⟨⟨property.name, some fun _ => meaning .null⟩, rfl, ?_,
        Changes.assigned planned means known⟩
      rintro made ⟨⟩ before after same
      exact same
  · cases found with
    | none => exact idle
    | some value =>
        have sized : pass.advanced.claims.length = env.header.length := sized
        have existing : pass.nextRegister < pass.advanced.nextRegister := Nat.lt_succ_self _
        have planned :=
          settling.reliable.plans sized (Register.known_existing rfl existing) isMember
        obtain ⟨meaning, means, steady⟩ :=
          settling.steady sized rfl existing repeatable.resolve isMember
        refine ⟨⟨property.name, some meaning⟩, rfl, ?_, Changes.projected planned means known⟩
        rintro made ⟨⟩
        exact steady

omit indexed in
theorem setSink_fieldChange
    (given : Gives (setSink env recurse site target property) pass steps next) :
    ∃ change : FieldChange, change.name = property.name ∧ change.Steady ∧
      Changes row target pass steps next change.apply := by
  obtain ⟨found, sink, rfl⟩ := setSink_gives given
  cases found with
  | none => exact ⟨⟨property.name, none⟩, rfl, nofun, Changes.nil⟩
  | some value =>
      have planned := planSink_planned settling.reliable sized sink
      obtain ⟨meaning, means⟩ := planned.exists_means row
      refine ⟨⟨property.name, some fun _ => meaning .null⟩, rfl, ?_,
        Changes.assigned planned means known⟩
      rintro made ⟨⟩ before after same
      exact same

omit indexed settling in
theorem setEach_fieldChanges {assign : Property → Planning (List Step)} {properties : List Property}
    (planned : ∀ {property : Property} {pass next : Pass} {steps : List Step},
      pass.claims.length = env.header.length → target < pass.nextRegister →
      Gives (assign property) pass steps next → Block [target] [target] pass steps next)
    (settles : ∀ {property : Property} {pass next : Pass} {steps : List Step},
      property ∈ properties → pass.claims.length = env.header.length →
      target < pass.nextRegister → Gives (assign property) pass steps next →
        ∃ change : FieldChange, change.name = property.name ∧ change.Steady ∧
          Changes row target pass steps next change.apply)
    (given : Gives (setEach assign properties) pass steps next) :
    ∃ changes : List FieldChange, changes.map FieldChange.name = properties.map PropertyOf.name ∧
      (∀ change ∈ changes, change.Steady) ∧
      Changes row target pass steps next (FieldChange.applyAll changes) := by
  induction properties generalizing pass steps with
  | nil =>
      obtain ⟨rfl, -⟩ := gives_pure.mp given
      exact ⟨[], rfl, nofun, Changes.nil⟩
  | cons property rest ih =>
      obtain ⟨first, middle, others, isFirst, later, rfl⟩ := setEach_cons given
      have block := planned sized known isFirst
      have stillSized := block.onward.length.trans sized
      have stillKnown := Nat.lt_of_lt_of_le known block.onward.registers
      have restPlanned := setEach_planned planned stillSized stillKnown later
      obtain ⟨change, named, steady, changes⟩ := settles (by simp) sized known isFirst
      obtain ⟨more, namedMore, steadyMore, changesMore⟩ :=
        ih stillSized stillKnown (fun member => settles (by simp [member])) later
      refine ⟨change :: more, by simp [named, namedMore], ?_,
        changes.append block restPlanned.onward.registers changesMore⟩
      intro other member
      rcases List.mem_cons.mp member with rfl | member
      · exact steady
      · exact steadyMore other member

theorem setProperties_repeat
    (repeatable : (Target.object type).Everywhere env.bindings env.settings
      (Target.IsRepeatable env.settings))
    (given : Gives (setProperties env recurse site type target) pass steps next) :
    ∃ change : Change, Changes row target pass steps next change ∧
      ∀ before after, Expectation.object.accepts before = true → change before = some after →
        Expectation.object.accepts after = true ∧ change after = some after := by
  obtain ⟨plain, middle, sinks, planPlain, planSinks, rfl⟩ := setProperties_gives given
  have plainPlanned {property : Property} {pass next : Pass} {steps : List Step}
      (sized : pass.claims.length = env.header.length) (known : target < pass.nextRegister)
      (given : Gives (setProperty env recurse site target property) pass steps next) :=
    setProperty_planned indexed settling.reliable sized known given
  have sinkPlanned {property : Property} {pass next : Pass} {steps : List Step}
      (sized : pass.claims.length = env.header.length) (known : target < pass.nextRegister)
      (given : Gives (setSink env recurse site target property) pass steps next) :=
    setSink_planned settling.reliable sized known given
  have block := setEach_planned plainPlanned sized known planPlain
  have stillSized := block.onward.length.trans sized
  have stillKnown := Nat.lt_of_lt_of_le known block.onward.registers
  have sinksBlock := setEach_planned sinkPlanned stillSized stillKnown planSinks
  have plainSettles {property : Property} {pass next : Pass} {steps : List Step}
      (member : property ∈ plainProperties type)
      (sized : pass.claims.length = env.header.length) (known : target < pass.nextRegister)
      (given : Gives (setProperty env recurse site target property) pass steps next) :=
    setProperty_fieldChange indexed settling sized known
      (repeatable.part (Target.property_parts
        (List.mem_of_mem_filter (List.mem_of_mem_filter member)))) given
  obtain ⟨changes, named, steady, isChanges⟩ :=
    setEach_fieldChanges sized known plainPlanned plainSettles planPlain
  obtain ⟨more, namedMore, steadyMore, isMore⟩ :=
    setEach_fieldChanges stillSized stillKnown sinkPlanned
      (fun _ sized known given => setSink_fieldChange settling sized known given) planSinks
  have all := isChanges.append block sinksBlock.onward.registers isMore
  refine ⟨FieldChange.applyAll (changes ++ more),
    all.congr fun value => (FieldChange.applyAll_append changes more value).symm,
    fun before after isObject given => ⟨FieldChange.applyAll_object isObject given, ?_⟩⟩
  have distinct : ((changes ++ more).map FieldChange.name).Nodup := by
    rw [List.map_append, named, namedMore, ← List.map_append]
    refine (List.Perm.nodup_iff (List.Perm.map _ ?_)).mpr (repeatable.here.2 type rfl)
    exact List.perm_append_comm.trans (List.filter_append_perm _ _)
  refine FieldChange.applyAll_steady distinct (fun change member => ?_) before after given
  rcases List.mem_append.mp member with member | member
  · exact steady change member
  · exact steadyMore change member

end Properties

/-! ## Instances -/

theorem planInstance_object {factory : Option Factory} {created : Change} {value : Value}
    (planned : Planned none pass create next) (creates : Means row none pass create next created)
    (given : Gives (planInstance env recurse site type factory) pass create next)
    (isCreated : created .null = some value) : Expectation.object.accepts value = true := by
  have blank : (Registers.holding next.nextRegister none .null).Open pass next :=
    Registers.holding_open .null nofun
  obtain ⟨finished, ran, rfl⟩ := runTo_eq_some.mp ((creates _ blank).trans isCreated)
  have inside : create.result < (Registers.holding next.nextRegister none .null).size :=
    Nat.lt_of_lt_of_le planned.below blank.fits
  rcases planInstance_gives given with ⟨maker, -, -, rfl⟩ |
    ⟨-, constructor, arguments, middle, -, -, -, rfl⟩
  · have ran := (runSteps_single ..).symm.trans ran
    rw [runStep] at ran
    obtain ⟨value, made, rfl⟩ := Except.map_eq_ok ran
    have written : Registers.get _ _ = value := Registers.get_write_same inside
    rw [Program.single] at written ⊢
    rw [written]
    unfold produceInstance at made
    split at made
    · cases made
      rfl
    · cases made
  · obtain ⟨between, first, second⟩ := runSteps_append.mp ran
    rw [runSteps_single, runStep] at second
    cases second
    have inFile : middle.nextRegister < (between.takeAll (arguments.map ProgramOf.result)).2.size := by
      rw [Registers.size_takeAll, run_size first]
      exact inside
    dsimp only
    rw [Registers.get_write_same inFile]
    rfl

section Planners

variable (indexed : env.header.WellIndexed) (settling : Settling env row recurse)
variable (sized : pass.claims.length = env.header.length)
variable (isExisting : site.existing = some register) (known : register < pass.nextRegister)
include indexed settling sized isExisting known

theorem planSingle_steady {declared : ObjectType}
    (repeatable : (Target.object declared).Everywhere env.bindings env.settings
      (Target.IsRepeatable env.settings))
    (given : Gives (planSingle env recurse site declared (env.settings.ofType? declared.name)) pass
      program next) :
    ∃ meaning : Change, Means row (some register) pass program next meaning ∧ meaning.Steady := by
  obtain ⟨create, middle, start, between, creating, starting, assigning⟩ := planSingle_gives given
  obtain ⟨assigns, setting, rfl⟩ := planAssigned_gives assigning
  have registers := Register.known_existing isExisting known
  have concrete : (Target.object (concreteOf declared (env.settings.ofType? declared.name))).Everywhere
      env.bindings env.settings (Target.IsRepeatable env.settings) := by
    unfold concreteOf
    split
    · rename_i default isDefault
      split
      · obtain ⟨own, configured, isOwn⟩ := Option.bind_eq_some_iff.mp isDefault
        exact repeatable.part (Target.policy_parts configured (TypePolicy.default_targets isOwn))
      · exact repeatable
    · exact repeatable
  have created := planInstance_planned indexed settling.reliable sized creating
  have started := reuseOrCreate_planned registers created starting
  obtain ⟨meaning, creates⟩ := created.exists_means row
  have starts := reuseOrCreate_means isExisting creates starting
  rw [isExisting] at started
  have stillSized := started.block.onward.length.trans sized
  have assigned := setProperties_planned indexed settling.reliable stillSized started.below setting
  obtain ⟨change, changes, settles⟩ :=
    setProperties_repeat indexed settling stillSized started.below concrete setting
  refine ⟨_, Means.filled started starts assigned.onward.registers changes,
    Change.reused_steady (fun value isCreated => ?_) settles⟩
  exact planInstance_object created creates creating isCreated

theorem planObject_steady
    (repeatable : site.target.Everywhere env.bindings env.settings
      (Target.IsRepeatable env.settings))
    (given : Gives (planObject env recurse site) pass (some program) next) :
    ∃ meaning : Change, Means row (some register) pass program next meaning ∧ meaning.Steady := by
  rcases planObject_gives given with ⟨impossible, -⟩ | ⟨planned, declared, same, isObject, way⟩
  · cases impossible
  cases same
  rw [isObject] at repeatable
  rcases way with ⟨-, single⟩ | ⟨own, configured, ruled, -⟩
  · exact planSingle_steady indexed settling sized isExisting known repeatable single
  · exact absurd (repeatable.here.1 own configured) ruled

end Planners

/-! ## Maps -/

theorem planEntries_steady (indexed : env.header.WellIndexed) (settling : Settling env row recurse)
    (sized : pass.claims.length = env.header.length) (isExisting : site.existing = some register)
    (known : register < pass.nextRegister) {value : Target}
    (given : Gives (planEntries env recurse site none value) pass (some program) next) :
    ∃ meaning : Change, Means row (some register) pass program next meaning ∧ meaning.Steady := by
  obtain ⟨change, inserts, means⟩ :=
    planEntries_inserts indexed settling.reliable sized row isExisting known given
  refine ⟨_, means, Change.reused_steady (fun value isCreated => ?_) fun _ _ => inserts.settles⟩
  cases isCreated
  rfl

/-! ## The standard strategy -/

theorem standard_settles (indexed : env.header.WellIndexed) (row : Row) (levels : Nat) :
    Settling env row (standard env levels) := by
  induction levels with
  | zero =>
      refine ⟨standard_reliable indexed 0, fun _ _ _ _ given => ?_⟩
      rcases standard_gives given with ⟨impossible, -⟩ | ⟨below, impossible, -⟩
      · cases impossible
      · cases impossible
  | succ levels ih =>
      refine ⟨standard_reliable indexed (levels + 1),
        fun sized isExisting known repeatable given => ?_⟩
      rcases standard_gives given with ⟨impossible, -⟩ | ⟨below, same, planner, member, program,
        isProgram, given⟩
      · cases impossible
      cases same
      cases isProgram
      simp only [standardPlanners, List.mem_cons, List.not_mem_nil, or_false] at member
      rcases member with rfl | rfl | rfl | rfl | rfl | rfl | rfl
      · rcases planUntypedMember_gives given with ⟨impossible, -⟩ | ⟨-, untyped⟩
        · cases impossible
        · exact steady_of_new row (planUntyped_planned indexed sized untyped)
      · exact steady_of_new row (planLeaf_planned indexed sized given)
      · exact steady_of_new row (planTuple_planned ih.reliable sized given)
      · exact steady_of_new row (planArray_planned indexed ih.reliable sized given)
      · rcases planDictionary_gives given with ⟨impossible, -⟩ | ⟨value, -, entries⟩ |
          ⟨type, isDictionary, -⟩
        · cases impossible
        · exact planEntries_steady indexed ih sized isExisting known entries
        · have excluded := repeatable.here.1
          rw [isDictionary] at excluded
          exact excluded.elim
      · have excluded := repeatable.here.1
        rcases planSequence_gives given with ⟨impossible, -⟩ | ⟨element, isList, -⟩ |
          ⟨type, isSequence, -⟩
        · cases impossible
        · rw [isList] at excluded
          exact excluded.elim
        · rw [isSequence] at excluded
          exact excluded.elim
      · exact planObject_steady indexed ih sized isExisting known repeatable given

end Planning

/-! ## Mappers -/

/-- What is mapped onto the outcome of the same row stays as it is. -/
theorem Mapper.update_repeated {bindings : Bindings} {settings : Settings} {target : Target}
    {columns : List Column} {mapper : Mapper} {row : Row} {value : Value}
    (repeatable : target.Everywhere bindings settings (Target.IsRepeatable settings))
    (made : Mapper.make .standard bindings target (Header.ofColumns columns) settings = .ok mapper)
    (mapped : mapper.map row = .ok value) : mapper.update row value = .ok value := by
  have indexed := Header.ofColumns_wellIndexed columns
  obtain ⟨plan, planned, rfl⟩ := Except.map_eq_ok made
  obtain ⟨final, given, fits⟩ := Plan.ofTarget_gives planned
  have settling : Settling ⟨Header.ofColumns columns, settings, bindings⟩ row
      (standard _ (deepestLevel + 1)) := standard_settles indexed row _
  have sized : (Claims.none (Header.ofColumns columns)).length =
      (Header.ofColumns columns).length :=
    Claims.length_none _
  have started : existingRegister < existingRegister + 1 := Nat.lt_succ_self _
  have onward := settling.reliable.climbs (Site.atRoot bindings target)
    ⟨Claims.none (Header.ofColumns columns), existingRegister + 1⟩
  rw [show standard _ (deepestLevel + 1) _ _ = (.ok (some plan.program), final) from given] at onward
  obtain ⟨meaning, means, steady⟩ :=
    settling.steady sized rfl started repeatable.resolve given
  have runs := fun existing => Plan.run_means means started onward fits existing
  rw [Mapper.map, Except.ok_iff_toOption, runs] at mapped
  rw [Mapper.update, Except.ok_iff_toOption, runs]
  exact steady _ _ mapped

/-! ### Orders

The buyer and the notes are made first and updated then. -/

namespace Orders

def buyer : ObjectType :=
  ObjectTypeOf.declare 1 "Buyer" false
    [{ name := "Name", target := .scalar .string }, { name := "Town", target := .scalar .string }] 2
    [{ ident := 3, owner := "Buyer", parameters := [{ name := "name", target := .scalar .string }] }]

def order : ObjectType :=
  ObjectTypeOf.declare 4 "Order" false
    [{ name := "Buyer", target := .object buyer },
      { name := "Notes", target := .map (.scalar .string) }] 5 []

def columns : List Column :=
  [Column.declare "buyer_name" .string, Column.declare "buyer_town" .string,
    Column.declare "notes_b" .string, Column.declare "notes_a" .string]

def row : Row :=
  ⟨columns, [.string "Ada", .string "Ulm", .string "brittle", .string "urgent"]⟩

def mapper? : Except Failure Mapper :=
  Mapper.make .standard [] (.object order) (Header.ofColumns columns) {}

theorem order_repeatable : (Target.object order).Everywhere [] {} (Target.IsRepeatable {}) := by
  let closed : List Target :=
    [.object order, .object buyer, .map (.scalar .string), .scalar .string]
  have parts : ∀ outer ∈ closed, outer.parts [] {} ⊆ closed := by
    simp [closed, Target.parts, ObjectTypeOf.targets, ConstructorOf.targets, order, buyer,
      ObjectTypeOf.declare, Settings.ofType?, Entries.get?]
  have repeatable : ∀ inner ∈ closed, inner.IsRepeatable {} := by
    simp [closed, Target.IsRepeatable, Target.IsSettled, order, buyer, ObjectTypeOf.declare,
      PropertyOf.isAssignable, Settings.ofType?, Entries.get?]
  exact fun inner reached =>
    repeatable inner (Target.Reaches.within (· ∈ closed) (by simp [closed])
      (fun outer member part isPart => parts outer member isPart) reached)

end Orders

theorem Orders.mapped_twice : ∃ mapper value, Orders.mapper? = .ok mapper ∧
    mapper.map Orders.row = .ok value ∧ mapper.update Orders.row value = .ok value := by
  have mapped : (Orders.mapper?.bind fun mapper => mapper.map Orders.row).isOk = true := by
    decide +kernel
  obtain ⟨value, ran⟩ := Except.of_isOk mapped
  obtain ⟨mapper, made, ran⟩ := Except.bind_eq_ok ran
  exact ⟨mapper, value, made, ran, Mapper.update_repeated Orders.order_repeatable made ran⟩

/-! ### Twins

Two properties of one name: what the first makes of the value of the second need not be possible. -/

namespace Twins

def kept : ObjectType :=
  ObjectTypeOf.declare 1 "Kept" false [{ name := "R", target := .scalar .string }] 2 []

def made : ObjectType :=
  ObjectTypeOf.declare 3 "Made" false [{ name := "Q", target := .scalar (.int .int32) }] 4
    [{ ident := 5, owner := "Made",
       parameters := [{ name := "q", target := .scalar (.int .int32) }] }]

def twice : ObjectType :=
  ObjectTypeOf.declare 6 "Twice" false
    [{ name := "X", target := .object made }, { name := "X", target := .scalar (.int .int32) }] 7
    [{ ident := 8, owner := "Twice", parameters := [{ name := "x", target := .object kept }] }]

def columns : List Column :=
  [Column.declare "x" (.int .int32), Column.declare "x_q" .string, Column.declare "x_r" .string]

def row : Row :=
  ⟨columns, [.int .int32 (FixedInt.zero .int32), .string "no", .string "r"]⟩

def mapper? : Except Failure Mapper :=
  Mapper.make .standard [] (.object twice) (Header.ofColumns columns) {}

theorem twice_settled : (Target.object twice).Everywhere [] {} (Target.IsSettled {}) := by
  let closed : List Target :=
    [.object twice, .object made, .object kept, .scalar .string, .scalar (.int .int32)]
  have parts : ∀ outer ∈ closed, outer.parts [] {} ⊆ closed := by
    simp [closed, Target.parts, ObjectTypeOf.targets, ConstructorOf.targets, twice, made, kept,
      ObjectTypeOf.declare, Settings.ofType?, Entries.get?]
  have settled : ∀ inner ∈ closed, inner.IsSettled {} := by
    simp [closed, Target.IsSettled, Settings.ofType?, Entries.get?]
  exact fun inner reached =>
    settled inner (Target.Reaches.within (· ∈ closed) (by simp [closed])
      (fun outer member part isPart => parts outer member isPart) reached)

end Twins

theorem Twins.mapped_once : (Target.object Twins.twice).Everywhere [] {} (Target.IsSettled {}) ∧
    ∃ mapper value, Twins.mapper? = .ok mapper ∧ mapper.map Twins.row = .ok value ∧
      mapper.update Twins.row value ≠ .ok value := by
  have failed : (Twins.mapper?.bind fun mapper =>
      (mapper.map Twins.row).map fun value => (mapper.update Twins.row value).isOk) =
        .ok false := by
    decide +kernel
  obtain ⟨mapper, isMapper, ran⟩ := Except.bind_eq_ok failed
  obtain ⟨value, mapped, refused⟩ := Except.map_eq_ok ran
  refine ⟨Twins.twice_settled, mapper, value, isMapper, mapped, fun updated => ?_⟩
  rw [updated] at refused
  cases refused

end Unflatten
