import Unflatten.Mapper
import Unflatten.Proofs.Conformance.Objects
import Unflatten.Proofs.Planning.Linearity

/-!
# Mapped rows conform

The standard strategy yields values that conform at every number of levels, since its planners do if
the planner of their members does. A row is mapped onto null, which any site may update, so what it
is mapped to conforms to the whole target.
-/

set_option autoImplicit false

namespace Unflatten

open Planning

section Strategies

variable {env : Environment} {root : Target} {row : Row} {recurse : Planner} {site : Site}
variable {pass next : Pass} {program : Program}

theorem Planning.standardPlanners_yields (sound : Sound env root row recurse)
    (sized : pass.claims.length = env.header.length)
    (known : ∀ register, site.existing = some register → register < pass.nextRegister)
    (within : env.Within root site.target) (planner : Planner)
    (member : planner ∈ standardPlanners env recurse)
    (given : Gives (planner site) pass (some program) next) :
    Yields row site.existing (env.Reusable site.target) (env.Conforms site.target) program
      next := by
  have ofNew (yields : Yields row none (fun _ => True) (env.Conforms site.target) program next) :
      Yields row site.existing (env.Reusable site.target) (env.Conforms site.target) program
        next := Yields.ofNew yields
  simp only [standardPlanners, List.mem_cons, List.not_mem_nil, or_false] at member
  rcases member with rfl | rfl | rfl | rfl | rfl | rfl | rfl
  · rcases planUntypedMember_gives given with ⟨impossible, -⟩ | ⟨-, given⟩
    · cases impossible
    · exact ofNew (planUntyped_yields given)
  · exact ofNew (planLeaf_yields sound given)
  · exact ofNew (planTuple_yields sound sized within given)
  · exact ofNew (planArray_yields sound sized within given)
  · exact planDictionary_yields sound sized known within given
  · exact planSequence_yields sound sized known within given
  · exact planObject_yields sound sized known within given

theorem Planning.standard_sound (indexed : env.header.WellIndexed)
    (cells : ∀ column ∈ env.header, column.type.Allows (row.value column.index))
    (orderly : Orderly env.settings env.bindings root) (levels : Nat) :
    Sound env root row (standard env levels) := by
  induction levels with
  | zero =>
      refine ⟨indexed, cells, orderly, standard_reliable indexed 0, ?_⟩
      intro site pass next program _ _ _ given
      exact absurd given gives_throw
  | succ levels ih =>
      refine ⟨indexed, cells, orderly, standard_reliable indexed (levels + 1), ?_⟩
      intro site pass next program sized known within given
      rcases standard_gives given with ⟨impossible, -⟩ |
        ⟨below, same, planner, member, planned, found, given⟩
      · cases impossible
      · cases same
        cases found
        exact standardPlanners_yields ih sized known within planner member given

end Strategies

/-! ## Families

A person has a parent who is a person: a reference in the type leads back to it. Where the row tells
of a reign the persons are royal. -/

namespace Families

def reference : Reference :=
  ⟨1, "Person"⟩

def person : ObjectType :=
  ObjectTypeOf.declare 1 "Person" false
    [{ name := "name", target := .scalar .string },
      { name := "parent", target := .reference reference }] 11 []

def years : Target :=
  .nullable (.scalar (.int .int64))

def royal : ObjectType :=
  ObjectTypeOf.declare 2 "Royal" false
    [{ name := "Name", target := .scalar .string },
      { name := "reign", target := .list years }] 12 []

def hasReign (row : Row) : Bool :=
  !(row.value 1).isNull

def policy : TypePolicy where
  subtypes := [⟨1, hasReign, .type royal⟩]

def settings : Settings where
  types := [("Person", policy)]

def bindings : Bindings :=
  [(1, person)]

def columns : List Column :=
  [Column.declare "Name" .string, Column.declare "Reign" (.int .int32),
    Column.declare "Parent_Name" .string]

def row : Row :=
  ⟨columns, [.string "Ada", .int .int32 (FixedInt.zero .int32), .null]⟩

theorem ofType?_some {name : String} {own : TypePolicy}
    (configured : settings.ofType? name = some own) : name = "Person" ∧ own = policy := by
  simp only [Settings.ofType?, settings, Entries.get?] at configured
  split at configured
  · rename_i same
    cases configured
    exact ⟨same.symm, rfl⟩
  · cases configured

theorem replaces_person {declared concrete : ObjectType}
    (replaces : Replaces settings declared concrete) :
    declared.name = "Person" ∧ concrete = royal := by
  obtain ⟨own, configured, isDefault | ⟨rule, member, rfl⟩⟩ := replaces
  · obtain ⟨-, rfl⟩ := ofType?_some configured
    cases isDefault
  · obtain ⟨isPerson, rfl⟩ := ofType?_some configured
    rw [List.mem_singleton.mp member]
    exact ⟨isPerson, rfl⟩

theorem usable_implicit {type : ObjectType} (isDeclared : type = person ∨ type = royal)
    {constructor : Constructor} (usable : UsableConstructor settings type constructor) :
    constructor.parameters = [] ∧ constructor.body = none := by
  rcases usable with member | ⟨own, configured, isPreferred⟩
  · rcases isDeclared with rfl | rfl
    · rw [List.mem_singleton.mp member]
      exact ⟨rfl, rfl⟩
    · rw [List.mem_singleton.mp member]
      exact ⟨rfl, rfl⟩
  · obtain ⟨-, rfl⟩ := ofType?_some configured
    cases isPreferred

/-- The targets that are reached from a person. -/
inductive Reached : Target → Prop where
  | person : Reached (.object person)
  | royal : Reached (.object royal)
  | reference : Reached (.reference reference)
  | reign : Reached (.list years)
  | years : Reached years
  | name : Reached (.scalar .string)

theorem reached {target : Target} (within : Within settings bindings (.object person) target) :
    Reached target := by
  induction within with
  | root => exact Reached.person
  | list _ ih =>
      cases ih
      exact Reached.years
  | sequence _ ih => cases ih
  | array _ ih => cases ih
  | tuple _ _ ih => cases ih
  | map _ ih => cases ih
  | dictionary _ ih => cases ih
  | property _ member ih =>
      cases ih with
      | person =>
          simp only [person, ObjectTypeOf.declare, List.mem_cons, List.not_mem_nil, or_false]
            at member
          rcases member with rfl | rfl
          · exact Reached.name
          · exact Reached.reference
      | royal =>
          simp only [royal, ObjectTypeOf.declare, List.mem_cons, List.not_mem_nil, or_false]
            at member
          rcases member with rfl | rfl
          · exact Reached.name
          · exact Reached.reign
  | parameter _ usable member ih =>
      cases ih with
      | person =>
          rw [(usable_implicit (Or.inl rfl) usable).1] at member
          cases member
      | royal =>
          rw [(usable_implicit (Or.inr rfl) usable).1] at member
          cases member
  | standIn _ stands ih =>
      rcases stands with rfl | replaces
      · exact ih
      · rw [(replaces_person replaces).2]
        exact Reached.royal
  | reference _ bound ih =>
      cases ih
      cases bound
      exact Reached.person

theorem person_orderly : person.Orderly settings where
  distinct := by decide
  stores := fun constructor usable => (usable_implicit (Or.inl rfl) usable).2
  parameters := by
    intro constructor usable parameter member
    rw [(usable_implicit (Or.inl rfl) usable).1] at member
    cases member
  standIns := by
    intro concrete replaces shared isShared property isProperty same
    obtain ⟨-, rfl⟩ := replaces_person replaces
    simp only [person, royal, ObjectTypeOf.declare, List.mem_cons, List.not_mem_nil, or_false]
      at isShared isProperty
    rcases isShared with rfl | rfl <;> rcases isProperty with rfl | rfl
    · rfl
    · exact absurd same (by decide)
    · exact absurd same (by decide)
    · exact absurd same (by decide)

theorem royal_orderly : royal.Orderly settings where
  distinct := by decide
  stores := fun constructor usable => (usable_implicit (Or.inr rfl) usable).2
  parameters := by
    intro constructor usable parameter member
    rw [(usable_implicit (Or.inr rfl) usable).1] at member
    cases member
  standIns := by
    intro concrete replaces
    exact absurd (replaces_person replaces).1 (by decide)

theorem orderly : Orderly settings bindings (.object person) where
  rules := rfl
  factories := by
    intro name own configured
    obtain ⟨-, rfl⟩ := ofType?_some configured
    refine ⟨rfl, fun rule member => ?_⟩
    rw [List.mem_singleton.mp member]
    rfl
  objects := by
    intro type within
    cases reached within with
    | person => exact person_orderly
    | royal => exact royal_orderly
  sequences := by
    intro type within
    cases reached within
  dictionaries := by
    intro type within
    cases reached within

theorem cells_allowed (index : Nat) (column : Column) (found : columns[index]? = some column) :
    column.type.Allows (row.value index) := by
  match index with
  | 0 =>
      cases found
      exact Or.inr (Or.inl rfl)
  | 1 =>
      cases found
      exact Or.inr (Or.inl rfl)
  | 2 =>
      cases found
      exact Or.inl rfl

def mapped? : Except Failure Value :=
  (Mapper.make .standard bindings (.object person) (Header.ofColumns columns) settings).bind
    fun mapper => mapper.map row

theorem mapped?_ok : ∃ mapper value,
    Mapper.make .standard bindings (.object person) (Header.ofColumns columns) settings =
      .ok mapper ∧ mapper.map row = .ok value := by
  have mapped : mapped?.isOk = true := by decide +kernel
  obtain ⟨value, done⟩ := Except.of_isOk mapped
  obtain ⟨mapper, made, outcome⟩ := Except.bind_eq_ok done
  exact ⟨mapper, value, made, outcome⟩

end Families

/-- Where the types within the target are orderly and every cell is null or of the type of its
column, a mapped row conforms to the target. -/
theorem Mapper.map_conforms {columns : List Column} {settings : Settings} {bindings : Bindings}
    {target : Target} {mapper : Mapper} {row : Row} {value : Value}
    (orderly : Orderly settings bindings target)
    (cells : ∀ (index : Nat) (column : Column), columns[index]? = some column →
      column.type.Allows (row.value index))
    (made : Mapper.make .standard bindings target (Header.ofColumns columns) settings =
      .ok mapper)
    (mapped : mapper.map row = .ok value) : Conforms settings bindings target value := by
  obtain ⟨plan, planned, rfl⟩ := Except.map_eq_ok made
  have indexed := Header.ofColumns_wellIndexed columns
  have allowed : ∀ column ∈ Header.ofColumns columns,
      column.type.Allows (row.value column.index) := by
    intro column member
    obtain ⟨⟨written, index⟩, isWritten, rfl⟩ := List.mem_map.mp member
    exact cells index written (List.mem_zipIdx_iff_getElem?.mp isWritten)
  obtain ⟨final, given, fits⟩ := Plan.ofTarget_gives planned
  have sized : (Claims.none (Header.ofColumns columns)).length =
      (Header.ofColumns columns).length :=
    Claims.length_none _
  have known : ∀ register, (Site.atRoot bindings target).existing = some register →
      register < existingRegister + 1 :=
    Register.known_existing rfl (Nat.lt_succ_self _)
  have sound : Sound ⟨Header.ofColumns columns, settings, bindings⟩ target row
      (standard ⟨Header.ofColumns columns, settings, bindings⟩ (deepestLevel + 1)) :=
    standard_sound indexed allowed orderly (deepestLevel + 1)
  have within : Within settings bindings target (target.resolve bindings) := Within.root.resolved
  have yields := sound.yields sized known within given
  unfold Mapper.map Plan.run at mapped
  split at mapped
  · rename_i finished ran
    cases mapped
    have started : 0 < plan.registerCount := by
      have onward := (sound.reliable.plans sized known given).block.onward.registers
      exact Nat.lt_of_lt_of_le (Nat.lt_of_lt_of_le (Nat.succ_pos _) onward) fits
    refine Conforms.ofResolved (yields _ finished ?_ (fun register same => ?_) ran)
    · simpa [Registers.start] using fits
    · cases same
      rw [Registers.get_start _ _ started]
      exact Or.inl rfl
  · cases mapped

theorem Families.mapped_conforms : ∃ mapper value,
    Mapper.make .standard Families.bindings (.object Families.person)
        (Header.ofColumns Families.columns) Families.settings = .ok mapper ∧
      mapper.map Families.row = .ok value ∧
      Conforms Families.settings Families.bindings (.object Families.person) value := by
  obtain ⟨mapper, value, made, mapped⟩ := Families.mapped?_ok
  exact ⟨mapper, value, made, mapped,
    Mapper.map_conforms Families.orderly Families.cells_allowed made mapped⟩

end Unflatten
