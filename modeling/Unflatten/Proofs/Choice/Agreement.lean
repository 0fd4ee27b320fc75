import Unflatten.Proofs.Choice.Instances

/-!
# The choice of a constructor and its arguments

The chosen constructor has a column for each parameter, but parameters may have the same columns,
and a member may have no use for those that bear its name. An argument is built without a column
only if every column that its parameter takes has been read by an earlier argument. Where each
parameter takes a column that none of the earlier ones is offered, all arguments are built from
columns.
-/

set_option autoImplicit false

namespace Unflatten

open Planning

/-- Makes an instance from the results of the arguments. -/
def Program.constructing (type : ObjectType) (constructor : Constructor) (arguments : List Program)
    (into : Register) : Program :=
  ⟨arguments.flatMap ProgramOf.steps
    ++ [.construct type constructor (arguments.map ProgramOf.result) into], into⟩

/-- How planned arguments share the columns of a view: each reads from what its parameter is
offered, and reads something unless what its parameter takes has been read before. -/
structure Environment.Supplies (env : Environment) (view : View) (parameters : List Parameter)
    (arguments : List Program) : Prop where
  length : arguments.length = parameters.length
  offered : ∀ (place : Nat) (parameter : Parameter) (argument : Program),
    parameters[place]? = some parameter → arguments[place]? = some argument →
    ∀ column ∈ view.header, column.index ∈ programColumns argument →
      view.Offers env.settings parameter column
  taken : ∀ (place : Nat) (parameter : Parameter) (argument : Program),
    parameters[place]? = some parameter → arguments[place]? = some argument →
    ∀ column, env.Takes view parameter column → programColumns argument ≠ [] ∨
      ∃ earlier ∈ arguments.take place, column.index ∈ programColumns earlier

namespace Environment.Supplies

variable {env : Environment} {view : View} {parameters : List Parameter} {arguments : List Program}

theorem unrivalled (supplies : env.Supplies view parameters arguments)
    (each : ∀ (place : Nat) (parameter : Parameter), parameters[place]? = some parameter →
      ∃ column, env.Takes view parameter column ∧
        ∀ earlier ∈ parameters.take place, ¬ view.Offers env.settings earlier column) :
    ∀ argument ∈ arguments, programColumns argument ≠ [] := by
  intro argument member
  obtain ⟨place, isArgument⟩ := List.mem_iff_getElem?.mp member
  have inside := (List.getElem?_eq_some_iff.mp isArgument).1
  rw [supplies.length] at inside
  have isParameter := List.getElem?_eq_getElem inside
  obtain ⟨column, takes, unoffered⟩ := each place _ isParameter
  rcases supplies.taken place _ argument isParameter isArgument column takes with reads |
    ⟨earlier, isEarlier, isRead⟩
  · exact reads
  · obtain ⟨other, isPlace⟩ := List.mem_iff_getElem?.mp isEarlier
    rw [List.getElem?_take] at isPlace
    split at isPlace
    · rename_i before
      have otherInside := (List.getElem?_eq_some_iff.mp isPlace).1
      rw [supplies.length] at otherInside
      have isRival := List.getElem?_eq_getElem otherInside
      have offers := supplies.offered other _ earlier isRival isPlace column takes.sees.1 isRead
      have rival : parameters[other] ∈ parameters.take place := by
        refine List.mem_iff_getElem?.mpr ⟨other, ?_⟩
        rw [List.getElem?_take, if_pos before]
        exact isRival
      exact absurd offers (unoffered _ rival)
    · cases isPlace

end Environment.Supplies

theorem Planning.planArguments_supplies {env : Environment} {site : Site} {pass next : Pass}
    {parameters : List Parameter} {arguments : List Program} {levels : Nat}
    (indexed : env.header.WellIndexed) (sized : pass.claims.length = env.header.length)
    (given : Gives (planArguments env (standard env levels) site parameters) pass arguments next) :
    env.Supplies (site.view env pass) parameters arguments where
  length := planArguments_length given
  offered := by
    intro place parameter argument isParameter isArgument column isColumn isRead
    have reliable := standard_reliable indexed levels
    obtain ⟨before, after, onward, planned, argues, -⟩ :=
      planArguments_place indexed reliable sized given isParameter isArgument
    rw [programColumns_eq] at isRead
    have offers := planArgument_offered indexed (standard_local indexed levels) isColumn
      (onward.length.trans sized) (planned.block.unclaimed column.index isRead)
      ((planned.block.columns column.index).mpr (.inr isRead)) reliable argues
    exact offers.earlier onward
  taken := by
    intro place parameter argument isParameter isArgument column takes
    obtain ⟨before, after, onward, planned, argues, claims⟩ :=
      planArguments_place indexed (standard_reliable indexed levels) sized given isParameter
        isArgument
    cases claimed : before.claims.isClaimed column.index with
    | true =>
        rcases claims column.index claimed with start | isRead
        · cases takes.sees.2.symm.trans start
        · exact .inr isRead
    | false =>
        have grows := planArgument_grows (standard_diligent indexed levels column)
          (onward.length.trans sized) indexed (takes.later onward claimed) argues
        rw [programColumns_eq]
        exact .inl (planned.grows_iff.mp grows)

/-! ## Offspring

A child is made from its parent together with its age, with the number of the parent, or alone. The
number of the parent is what the parent is made from. -/

namespace Offspring

def parent : ObjectType :=
  ObjectTypeOf.declare 50 "Parent" false [{ name := "Id", target := .scalar (.int .int32) }] 51 []

def raising : Constructor :=
  { ident := 53, owner := "Child"
    parameters :=
      [{ name := "parent", target := .object parent },
        { name := "age", target := .scalar (.int .int32) }] }

def adopting : Constructor :=
  { ident := 54, owner := "Child"
    parameters :=
      [{ name := "parent", target := .object parent },
        { name := "parent_id", target := .scalar (.int .int32) }] }

def bearing : Constructor :=
  { ident := 55, owner := "Child", parameters := [{ name := "parent", target := .object parent }] }

def child : ObjectType :=
  { ident := 52, name := "Child"
    properties :=
      [{ name := "Parent", target := .object parent },
        { name := "ParentId", target := .scalar (.int .int32) },
        { name := "Age", target := .scalar (.int .int32) }]
    constructors := [raising, adopting, bearing] }

def number : Column :=
  Column.declare "Parent_Id" (.int .int32)

def age : Column :=
  Column.declare "Age" (.int .int32)

def environment (columns : List Column) : Environment :=
  ⟨Header.ofColumns columns, {}, []⟩

def site : Site :=
  Site.atRoot [] (.object child)

def start (columns : List Column) : Pass :=
  ⟨Claims.none (Header.ofColumns columns), existingRegister + 1⟩

def planned (columns : List Column) : Planning Program :=
  planInstance (environment columns) (standard (environment columns) deepestLevel) site child none

def chosen? (columns : List Column) : Option (Nat × Constructor) :=
  (site.view (environment columns) (start columns)).best? {} child.constructors

/-- The columns of each argument. -/
def argumentColumns (columns : List Column) (constructor : Constructor) :
    Except Failure (List (List Nat)) :=
  (planArguments (environment columns) (standard (environment columns) deepestLevel) site
    constructor.parameters (start columns)).1.map fun arguments => arguments.map programColumns

theorem raising_chosen : chosen? [number, age] = some (2, raising) := by
  rfl

theorem adopting_chosen : chosen? [number] = some (2, adopting) := by
  rfl

def numberColumn : HeaderColumn :=
  ⟨0, "Parent_Id", "parent_id", .int .int32, number.provider⟩

def ageColumn : HeaderColumn :=
  ⟨1, "Age", "age", .int .int32, age.provider⟩

theorem parent_takes : (environment [number, age]).Takes
    (site.view (environment [number, age]) (start [number, age]))
    { name := "parent", target := .object parent } numberColumn := by
  have inScope : (Scope.root.member "parent" "_").contains numberColumn = true := by decide
  refine .member rfl ⟨by decide, by decide, inScope⟩ ?_
  exact .property (List.mem_singleton.mpr rfl) (List.mem_singleton.mpr rfl) rfl inScope (by decide)

theorem age_seen :
    (site.view (environment [number, age]) (start [number, age])).Sees ageColumn :=
  ⟨by decide, by decide, by decide⟩

theorem age_unoffered : ¬ (site.view (environment [number, age]) (start [number, age])).Offers {}
    { name := "parent", target := .object parent } ageColumn := by
  intro offers
  cases offers with
  | named isLeaf => cases isLeaf
  | member _ covers => exact absurd covers (by decide)
  | nameless isSink => cases isSink

theorem planned_gives {columns : List Column}
    (succeeds : (planned columns (start columns)).1.isOk = true) :
    ∃ program next, Gives (planned columns) (start columns) program next := by
  cases found : planned columns (start columns) with
  | mk outcome next =>
      cases outcome with
      | ok program => exact ⟨program, next, found⟩
      | error failure =>
          rw [found] at succeeds
          cases succeeds

theorem raising_planned : ∃ program next,
    Gives (planned [number, age]) (start [number, age]) program next :=
  planned_gives (by decide +kernel)

theorem adopting_planned : ∃ program next,
    Gives (planned [number]) (start [number]) program next :=
  planned_gives (by decide +kernel)

theorem adopting_columns : argumentColumns [number] adopting = .ok [[0], []] := by
  decide +kernel

end Offspring

/-- The constructor that the columns lead to has a column for each of its parameters, and its
arguments share the columns in turn: each reads what its parameter is offered, and one that reads
nothing has been left nothing by the earlier ones of what its parameter takes. So no argument goes
without a column where each parameter takes one that the earlier ones are not offered. -/
theorem Planning.planInstance_supplied {columns : List Column} {settings : Settings}
    {bindings : Bindings} {levels : Nat} {site : Site} {type : ObjectType}
    {factory : Option Factory} {pass next : Pass} {program : Program}
    (sized : pass.claims.length = columns.length)
    (unmade : factoryFor ⟨Header.ofColumns columns, settings, bindings⟩ type factory = none)
    (unpreferred : (settings.ofType? type.name).bind TypePolicy.preferred = none)
    (given : Gives
      (planInstance ⟨Header.ofColumns columns, settings, bindings⟩
        (standard ⟨Header.ofColumns columns, settings, bindings⟩ levels) site type factory)
      pass program next) :
    ∃ constructor arguments into,
      View.IsBest ⟨Header.ofColumns columns, pass.claims, site.scope⟩ settings type.constructors
        constructor ∧
      program = Program.constructing type constructor arguments into ∧
      Environment.Supplies ⟨Header.ofColumns columns, settings, bindings⟩
        ⟨Header.ofColumns columns, pass.claims, site.scope⟩ constructor.parameters arguments ∧
      ((∀ (place : Nat) (parameter : Parameter),
        constructor.parameters[place]? = some parameter →
        ∃ column,
          Environment.Takes ⟨Header.ofColumns columns, settings, bindings⟩
            ⟨Header.ofColumns columns, pass.claims, site.scope⟩ parameter column ∧
          ∀ earlier ∈ constructor.parameters.take place,
            ¬ View.Offers ⟨Header.ofColumns columns, pass.claims, site.scope⟩ settings earlier
              column) →
        ∀ argument ∈ arguments, programColumns argument ≠ []) := by
  have indexed := Header.ofColumns_wellIndexed columns
  have sized : pass.claims.length = (Header.ofColumns columns).length := by
    rw [sized, Header.ofColumns, List.length_map, List.length_zipIdx]
  rcases planInstance_gives given with ⟨maker, made, -⟩ |
    ⟨-, constructor, arguments, middle, chosen, planned, -, rfl⟩
  · cases unmade.symm.trans made
  have supplies := planArguments_supplies indexed sized planned
  cases ObjectTypeOf.chooses_of_chosen chosen with
  | preferred isPreferred => cases unpreferred.symm.trans isPreferred
  | best _ _ isBest =>
      exact ⟨constructor, arguments, middle.nextRegister, isBest, rfl, supplies,
        supplies.unrivalled⟩

/-- The parent takes its number and is not offered the age. -/
theorem Offspring.raising_supplied : ∃ (arguments : List Program) (into : Register) (next : Pass),
    Gives (planned [number, age]) (start [number, age])
      (Program.constructing child raising arguments into) next ∧
    arguments.length = 2 ∧ ∀ argument ∈ arguments, programColumns argument ≠ [] := by
  obtain ⟨program, next, given⟩ := raising_planned
  obtain ⟨constructor, arguments, into, isBest, rfl, supplies, unrivalled⟩ :=
    planInstance_supplied rfl rfl rfl given
  obtain rfl := isBest.unique (View.best?_eq_some_iff.mp raising_chosen).2
  refine ⟨arguments, into, next, given, supplies.length, unrivalled fun place parameter found => ?_⟩
  have places : place = 0 ∨ place = 1 := by
    have inside := (List.getElem?_eq_some_iff.mp found).1
    have two : raising.parameters.length = 2 := rfl
    lia
  rcases places with rfl | rfl
  · obtain rfl := Option.some.inj found
    exact ⟨numberColumn, parent_takes, by simp⟩
  · obtain rfl := Option.some.inj found
    refine ⟨ageColumn, .named rfl age_seen (by decide), fun earlier member => ?_⟩
    obtain rfl := List.mem_singleton.mp member
    exact age_unoffered

/-- The parent has read its number before the number is looked for, which is left at its default,
although the constructor was chosen for a column that serves this parameter too. -/
theorem Offspring.adopting_starved : ∃ (arguments : List Program) (into : Register) (next : Pass),
    Gives (planned [number]) (start [number])
      (Program.constructing child adopting arguments into) next ∧
    View.IsBest (site.view (environment [number]) (start [number])) {} child.constructors adopting ∧
    ∃ argument ∈ arguments, programColumns argument = [] := by
  obtain ⟨program, next, given⟩ := adopting_planned
  rcases planInstance_gives given with ⟨maker, made, -⟩ |
    ⟨-, constructor, arguments, middle, chosen, planned, -, rfl⟩
  · cases made
  have isBest := (View.best?_eq_some_iff.mp adopting_chosen).2
  obtain rfl : constructor = adopting :=
    Except.ok.inj (chosen.symm.trans (ObjectTypeOf.chooseConstructor_chooses
      (.best rfl rfl isBest)))
  refine ⟨arguments, middle.nextRegister, next, given, isBest, ?_⟩
  have columns := adopting_columns
  rw [argumentColumns, planned] at columns
  have columns : arguments.map programColumns = [[0], []] := Except.ok.inj columns
  have starved : [] ∈ arguments.map programColumns := by simp [columns]
  exact List.mem_map.mp starved

end Unflatten
