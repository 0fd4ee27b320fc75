import Unflatten.Proofs.Updates.InPlace

/-!
# What new instances start as

Where no object exists, an instance is made by a factory or by a constructor, and its properties are
set as if it had been there before. So whatever holds of an update holds of the new instance and
what becomes of it.
-/

set_option autoImplicit false

namespace Unflatten

open Planning

namespace Settings

/-- A factory of the type itself, of the declared type or of one of its subtype rules. -/
def Employs (settings : Settings) (declared type : ObjectType) (maker : Factory) : Prop :=
  (∃ own, settings.ofType? type.name = some own ∧ own.factory = some maker) ∨
    ∃ own, settings.ofType? declared.name = some own ∧
      (own.factory = some maker ∨ ∃ rule ∈ own.subtypes, rule.target.factory? = some maker)

/-- What a new instance is before its properties are set. -/
def Starts (settings : Settings) (row : Row) (declared type : ObjectType) (start : Object) : Prop :=
  (∃ maker, settings.Employs declared type maker ∧ maker.make row = some start) ∨
    ∃ constructor arguments, UsableConstructor settings type constructor ∧
      start = constructor.construct type arguments

end Settings

/-- The value is what has become of a new instance of a type that stands for the declared one. -/
def Environment.IsNew (env : Environment) (row : Row)
    (related : ObjectType → Scope → Object → Object → Prop) (declared : ObjectType)
    (scope : Scope) (value : Value) : Prop :=
  ∃ type start, Unflatten.StandsFor env.settings declared type ∧
    env.settings.Starts row declared type start ∧ start.Becomes related type scope value

namespace Planning

variable {env : Environment} {recurse : Planner} {row : Row} {site : Site} {pass next : Pass}
variable {type declared : ObjectType} {factory : Option Factory} {program : Program}

theorem construct_yields {constructor : Constructor} {arguments : List Program}
    {input : Value → Prop} :
    Yields row none input
      (fun value => ∃ values, value = (constructor.construct type values).toValue)
      ⟨arguments.flatMap ProgramOf.steps
          ++ [.construct type constructor (arguments.map ProgramOf.result) pass.nextRegister],
        pass.nextRegister⟩ pass.advanced := by
  intro registers finished fits _ ran
  obtain ⟨between, ranArguments, ranLast⟩ := runSteps_append.mp ran
  rw [runSteps_single, runStep] at ranLast
  cases ranLast
  have inside : pass.nextRegister < registers.size := Nat.lt_of_succ_le fits
  rw [Registers.get_write_same (by
    rw [Registers.size_takeAll, run_size ranArguments]; exact inside)]
  exact ⟨_, rfl⟩

theorem planInstance_starts
    (employs : ∀ maker, factoryFor env type factory = some maker →
      env.settings.Employs declared type maker)
    (given : Gives (planInstance env recurse site type factory) pass program next) :
    Yields row none (fun _ => True)
      (fun value => ∃ start : Object, env.settings.Starts row declared type start ∧
        value = start.toValue) program next := by
  rcases planInstance_gives given with ⟨maker, isMaker, rfl, rfl⟩ |
    ⟨-, constructor, arguments, middle, chosen, -, rfl, rfl⟩
  · refine Yields.outcome (produceInstance row maker) (fun registers => by rw [runStep]) rfl
      fun value made => ?_
    unfold produceInstance at made
    split at made
    · rename_i start makes
      cases made
      exact ⟨start, Or.inl ⟨maker, employs maker isMaker, makes⟩, rfl⟩
    · cases made
  · have usable := ObjectTypeOf.chooseConstructor_usable chosen
    refine construct_yields.mono ?_
    rintro _ ⟨values, rfl⟩
    exact ⟨_, Or.inr ⟨constructor, values, usable, rfl⟩, rfl⟩

theorem factoryFor_employs
    (ofDeclared : ∀ maker, factory = some maker →
      ∃ own, env.settings.ofType? declared.name = some own ∧
        (own.factory = some maker ∨ ∃ rule ∈ own.subtypes, rule.target.factory? = some maker))
    (maker : Factory) (isMaker : factoryFor env type factory = some maker) :
    env.settings.Employs declared type maker := by
  rcases Option.or_eq_some_iff.mp isMaker with isFactory | ⟨-, isOwn⟩
  · exact Or.inr (ofDeclared maker isFactory)
  · exact Or.inl (Option.bind_eq_some_iff.mp isOwn)

theorem refusesOthers (value : Value) (other : ∀ object : Object, value ≠ object.toValue) :
    Expectation.object.accepts value = false := by
  cases value with
  | object typeName fields => exact absurd rfl (other ⟨typeName, fields⟩)
  | _ => rfl

section Single

variable {register : Register} (indexed : env.header.WellIndexed) (reliable : Reliable env recurse)
variable (sized : pass.claims.length = env.header.length)
variable (isThere : site.existing = some register)
include indexed reliable sized isThere

theorem planSingle_new {own : Option TypePolicy} {input output : Value → Prop}
    (begins : ∀ {create : Program} {middle : Pass},
      Gives (planInstance env recurse site (concreteOf declared own)
        (own.bind TypePolicy.factory)) pass create middle →
      Yields row none (fun _ => True) input create middle)
    (brings : ∀ {create : Program} {middle after : Pass} {assigns : List Step},
      Gives (planInstance env recurse site (concreteOf declared own)
        (own.bind TypePolicy.factory)) pass create middle →
      Gives (setProperties env recurse site (concreteOf declared own) middle.nextRegister)
        middle.advanced assigns after →
      Brings row middle.nextRegister input output assigns after)
    (given : Gives (planSingle env recurse site declared own) pass program next) :
    Yields row (some register) (fun present => ∀ before : Object, present ≠ before.toValue) output
      program next := by
  obtain ⟨create, middle, start, between, created, started, assigned⟩ := planSingle_gives given
  obtain ⟨assigns, set, rfl⟩ := planAssigned_gives assigned
  have creates := planInstance_planned indexed reliable sized created
  rcases reuseOrCreate_gives started with ⟨absent, -, -⟩ | ⟨existing, present, rfl, rfl⟩
  · rw [isThere] at absent
    cases absent
  · cases isThere.symm.trans present
    have stillSized : middle.advanced.claims.length = env.header.length :=
      creates.block.onward.length.trans sized
    have sets := setProperties_planned indexed reliable stillSized (Nat.lt_succ_self _) set
    refine Yields.brought sets.onward.registers ?_ (brings created set)
    exact Yields.created (begins created) refusesOthers (Nat.le_succ _) (Nat.lt_succ_self _)

end Single

section New

variable {related : ObjectType → Scope → Object → Object → Prop}
variable (inPlace : UpdatesInPlace env row related recurse) (indexed : env.header.WellIndexed)
include inPlace indexed

theorem setProperties_isNew {target : Register} {steps : List Step}
    (sized : pass.claims.length = env.header.length) (known : target < pass.nextRegister)
    (stands : Unflatten.StandsFor env.settings declared type)
    (given : Gives (setProperties env recurse site type target) pass steps next) :
    Brings row target
      (fun value => ∃ start : Object, env.settings.Starts row declared type start ∧
        value = start.toValue)
      (env.IsNew row related declared site.scope) steps next := by
  rintro registers finished fits ⟨start, starts, same⟩ ran
  exact ⟨type, start, stands, starts,
    setProperties_brings inPlace indexed sized known given registers finished fits same ran⟩

theorem planConcrete_isNew (sized : pass.claims.length = env.header.length)
    (stands : Unflatten.StandsFor env.settings declared type)
    (employs : ∀ maker, factoryFor env type factory = some maker →
      env.settings.Employs declared type maker)
    (given : Gives (planConcrete env recurse site type factory) pass program next) :
    Yields row none (fun _ => True) (env.IsNew row related declared site.scope) program next := by
  obtain ⟨start, middle, created, assigned⟩ := planConcrete_gives given
  obtain ⟨assigns, set, rfl⟩ := planAssigned_gives assigned
  have planned := planInstance_planned indexed inPlace.reliable sized created
  have stillSized := planned.block.onward.length.trans sized
  have sets := setProperties_planned indexed inPlace.reliable stillSized planned.below set
  exact Yields.brought sets.onward.registers (planInstance_starts employs created)
    (setProperties_isNew inPlace indexed stillSized planned.below stands set)

variable {register : Register} (sized : pass.claims.length = env.header.length)
variable (isThere : site.existing = some register)
include sized isThere

theorem planSingle_isNew
    (given : Gives (planSingle env recurse site declared (env.settings.ofType? declared.name)) pass
      program next) :
    Yields row (some register) (fun present => ∀ before : Object, present ≠ before.toValue)
      (env.IsNew row related declared site.scope) program next := by
  have ofDeclared : ∀ maker,
      (env.settings.ofType? declared.name).bind TypePolicy.factory = some maker →
      ∃ own, env.settings.ofType? declared.name = some own ∧
        (own.factory = some maker ∨ ∃ rule ∈ own.subtypes, rule.target.factory? = some maker) := by
    intro maker isMaker
    obtain ⟨own, configured, isFactory⟩ := Option.bind_eq_some_iff.mp isMaker
    exact ⟨own, configured, Or.inl isFactory⟩
  refine planSingle_new indexed inPlace.reliable sized isThere
    (fun {_ _} created => planInstance_starts (factoryFor_employs ofDeclared) created)
    (fun {create middle _ _} created set => ?_) given
  have creates := planInstance_planned indexed inPlace.reliable sized created
  have stillSized : middle.advanced.claims.length = env.header.length :=
    creates.block.onward.length.trans sized
  exact setProperties_isNew inPlace indexed stillSized (Nat.lt_succ_self _)
    (concreteOf_standsFor env.settings declared) set

theorem planPolymorphic_isNew {own : TypePolicy}
    (configured : env.settings.ofType? declared.name = some own)
    (known : register < pass.nextRegister)
    (given : Gives (planPolymorphic env recurse site declared own) pass program next) :
    Yields row (some register) (fun present => ∀ before : Object, present ≠ before.toValue)
      (env.IsNew row related declared site.scope) program next := by
  obtain ⟨branches, middle, fallback, between, branching, falls, way⟩ := planPolymorphic_gives given
  have ofRule : ∀ rule ∈ own.subtypes, ∀ {pass next : Pass} {program : Program},
      pass.claims.length = env.header.length →
      Gives (planConcrete env recurse site rule.target.objectType rule.target.factory?) pass program
        next →
      Yields row none (fun _ => True) (env.IsNew row related declared site.scope) program next :=
    fun rule member _ _ _ sized concrete =>
      planConcrete_isNew inPlace indexed sized
        (Or.inr ⟨own, configured, Or.inr ⟨rule, member, rfl⟩⟩)
        (factoryFor_employs fun maker isMaker => ⟨own, configured, Or.inr ⟨rule, member, isMaker⟩⟩)
        concrete
  obtain ⟨up, each⟩ := planBranches_output indexed inPlace.reliable sized ofRule branching
  have sizedMiddle : (Pass.mk pass.claims middle.nextRegister).claims.length =
      env.header.length := sized
  have fallen := planFallback_planned indexed inPlace.reliable sizedMiddle falls
  have isNew : Yields row none (fun _ => True) (env.IsNew row related declared site.scope) fallback
      between := by
    refine planFallback_output (fun type isType concrete => ?_) falls
    have stands : Unflatten.StandsFor env.settings declared type :=
      isType.imp_right fun isDefault => ⟨own, configured, Or.inl isDefault⟩
    exact planConcrete_isNew inPlace indexed sizedMiddle stands
      (@factoryFor_employs env type declared none fun _ impossible => nomatch impossible) concrete
  have selected : Yields row none (fun _ => True) (env.IsNew row related declared site.scope)
      (selection branches fallback between.nextRegister) between.advanced :=
    selection_yields each fallen.block.onward.registers isNew rfl
  rcases way with ⟨absent, -⟩ | ⟨existing, update, after, present, assigned, rfl, rfl⟩
  · rw [isThere] at absent
    cases absent
  · cases isThere.symm.trans present
    obtain ⟨assigns, set, rfl⟩ := planAssigned_gives assigned
    have sizedUpdate : (Pass.mk pass.claims between.advanced.nextRegister).claims.length =
        env.header.length := sized
    have knownHere : register < between.advanced.nextRegister :=
      Nat.lt_succ_of_lt (Nat.lt_of_lt_of_le known
        (Nat.le_trans up fallen.block.onward.registers))
    have sets := setProperties_planned indexed inPlace.reliable sizedUpdate knownHere set
    exact Yields.created selected refusesOthers
      (Nat.le_succ_of_le sets.onward.registers) (Nat.lt_succ_self _)

theorem planObject_isNew (isObject : site.target = .object declared)
    (known : register < pass.nextRegister)
    (given : Gives (planObject env recurse site) pass (some program) next) :
    Yields row (some register) (fun present => ∀ before : Object, present ≠ before.toValue)
      (env.IsNew row related declared site.scope) program next := by
  rcases planObject_gives given with ⟨impossible, -⟩ | ⟨_, other, same, isOther, way⟩
  · cases impossible
  cases same
  cases isObject.symm.trans isOther
  rcases way with ⟨-, single⟩ | ⟨own, configured, -, polymorphic⟩
  · exact planSingle_isNew inPlace indexed sized isThere single
  · exact planPolymorphic_isNew inPlace indexed sized isThere configured known polymorphic

end New

end Planning

/-- Where there is no object yet, a plan makes a new one and sets its properties. -/
theorem Plan.run_isNew {env : Environment} {target : Target} {declared : ObjectType} {plan : Plan}
    {row : Row} {existing value : Value} {related : ObjectType → Scope → Object → Object → Prop}
    (withstands : env.Withstands related) (indexed : env.header.WellIndexed)
    (isObject : target.resolve env.bindings = .object declared)
    (planned : Plan.ofTarget .standard env target = .ok plan)
    (other : ∀ before : Object, existing ≠ before.toValue)
    (ran : plan.run row existing = .ok value) : env.IsNew row related declared .root value := by
  have sized : (Claims.none env.header).length = env.header.length :=
    Claims.length_none _
  refine Plan.run_yields indexed planned ran fun given => ?_
  obtain ⟨below, same, object⟩ := standard_planObject isObject given
  have inPlace := standard_updates withstands indexed row below
  have isNew := planObject_isNew inPlace indexed sized rfl isObject
    (Nat.lt_succ_self existingRegister) object
  intro registers finished fits starts runs
  refine isNew registers finished fits (fun register isRegister => ?_) runs
  rw [starts register isRegister]
  exact other

end Unflatten
