import Unflatten.Proofs.Choice.Makings
import Unflatten.Proofs.Conversion

/-!
# Abstract types

Nothing but a preferred constructor makes an instance of an abstract type. Where the settings give
such a type neither a preferred constructor nor a factory, planning an instance of it fails, and
with it the site that asks for the instance.
-/

set_option autoImplicit false

namespace Unflatten

/-- Nobody is there to make an instance of the type. -/
structure Environment.Withholds (env : Environment) (type : ObjectType)
    (factory : Option Factory) : Prop where
  isAbstract : type.isAbstract = true
  unmade : Planning.factoryFor env type factory = none
  unpreferred : (env.settings.ofType? type.name).bind TypePolicy.preferred = none

/-- The instances that a site of the declared type asks for, those of all its rules included. -/
def ObjectTypeOf.asksFor (declared : ObjectType) (own : Option TypePolicy) :
    List (ObjectType × Option Factory) :=
  match own with
  | none => [(declared, none)]
  | some policy =>
    if policy.subtypes.isEmpty then [(Planning.concreteOf declared own, policy.factory)]
    else
      policy.subtypes.map (fun rule => (rule.target.objectType, rule.target.factory?)) ++
        match policy.default with
        | some default => [(default, none)]
        | none => if declared.isAbstract then [] else [(declared, none)]

theorem ObjectTypeOf.mem_asksFor_single {declared : ObjectType} {own : Option TypePolicy}
    {asked : ObjectType × Option Factory}
    (alone : ∀ policy, own = some policy → policy.subtypes = []) :
    asked ∈ declared.asksFor own ↔
      asked = (Planning.concreteOf declared own, own.bind TypePolicy.factory) := by
  cases own with
  | none => simp [asksFor, Planning.concreteOf]
  | some policy => simp [alone policy rfl, asksFor]

theorem ObjectTypeOf.mem_asksFor_ruled {declared : ObjectType} {own : TypePolicy}
    {asked : ObjectType × Option Factory} (ruled : own.subtypes ≠ []) :
    asked ∈ declared.asksFor (some own) ↔
      (∃ rule ∈ own.subtypes, asked = (rule.target.objectType, rule.target.factory?)) ∨
      (∃ default, own.default = some default ∧ asked = (default, none)) ∨
      (own.default = none ∧ declared.isAbstract = false ∧ asked = (declared, none)) := by
  have several : own.subtypes.isEmpty = false := by simpa using ruled
  have isRule : asked ∈ own.subtypes.map (fun rule =>
      (rule.target.objectType, rule.target.factory?)) ↔
        ∃ rule ∈ own.subtypes, asked = (rule.target.objectType, rule.target.factory?) := by
    simp only [List.mem_map, eq_comm]
  simp only [asksFor, several, Bool.false_eq_true, if_false, List.mem_append, isRule]
  cases own.default with
  | some default => simp
  | none => cases declared.isAbstract with
    | true => simp
    | false => simp

namespace Planning

variable {env : Environment} {recurse : Planner} {site : Site} {pass next : Pass}
variable {program : Program} {type declared : ObjectType} {factory : Option Factory}

theorem planInstance_refused (withheld : env.Withholds type factory) :
    Fails (planInstance env recurse site type factory) pass (.noUsableConstructor type.name)
      pass := by
  have refused (view : View) : type.chooseConstructor (env.settings.ofType? type.name) view
      env.settings = .error (.noUsableConstructor type.name) :=
    ObjectTypeOf.chooseConstructor_refuses
      (.abstract withheld.unpreferred withheld.isAbstract)
  have unmade := withheld.unmade
  rw [factoryFor] at unmade
  unfold planInstance
  simp only [unmade]
  refine fails_bind.mpr (.inl (fails_bind.mpr (.inr ⟨_, _, gives_view.mpr ⟨rfl, rfl⟩, ?_⟩)))
  rw [refused]
  rfl

theorem planInstance_granted
    (given : Gives (planInstance env recurse site type factory) pass program next) :
    ¬ env.Withholds type factory :=
  fun withheld => not_fails given (planInstance_refused withheld)

theorem planConcrete_granted
    (given : Gives (planConcrete env recurse site type factory) pass program next) :
    ¬ env.Withholds type factory := by
  obtain ⟨start, middle, created, -⟩ := planConcrete_gives given
  exact planInstance_granted created

theorem planFallback_asked {own : TypePolicy} {asked : ObjectType × Option Factory}
    (isAsked : (∃ default, own.default = some default ∧ asked = (default, none)) ∨
      (own.default = none ∧ declared.isAbstract = false ∧ asked = (declared, none)))
    (given : Gives (planFallback env recurse site declared own) pass program next) :
    Gives (planConcrete env recurse site asked.1 asked.2) pass program next := by
  rcases planFallback_gives given with ⟨default, found, planned⟩ | ⟨found, isAbstract, -⟩ |
    ⟨found, isConcrete, planned⟩
  · rcases isAsked with ⟨other, same, rfl⟩ | ⟨missing, -⟩
    · obtain rfl := Option.some.inj (found.symm.trans same)
      exact planned
    · cases found.symm.trans missing
  · rcases isAsked with ⟨other, same, -⟩ | ⟨-, isConcrete, -⟩
    · cases found.symm.trans same
    · cases isAbstract.symm.trans isConcrete
  · rcases isAsked with ⟨other, same, -⟩ | ⟨-, -, rfl⟩
    · cases found.symm.trans same
    · exact planned

theorem planBranches_granted {start : Claims} {rules : List SubtypeCase}
    {branches : List (Branch × Claims)}
    (given : Gives (planBranches env recurse site start rules) pass branches next) :
    ∀ rule ∈ rules, ¬ env.Withholds rule.target.objectType rule.target.factory? := by
  induction rules generalizing pass branches with
  | nil => simp
  | cons rule rest ih =>
      obtain ⟨program, middle, others, planned, later, -⟩ := planBranches_cons given
      exact List.forall_mem_cons.mpr ⟨planConcrete_granted planned, ih later⟩

theorem planPolymorphic_granted {own : TypePolicy} (ruled : own.subtypes ≠ [])
    (given : Gives (planPolymorphic env recurse site declared own) pass program next) :
    ∀ asked ∈ declared.asksFor (some own), ¬ env.Withholds asked.1 asked.2 := by
  obtain ⟨branches, middle, fallback, between, branched, fell, -⟩ := planPolymorphic_gives given
  intro asked member
  rcases (ObjectTypeOf.mem_asksFor_ruled ruled).mp member with ⟨rule, isRule, rfl⟩ | otherwise
  · exact planBranches_granted branched rule isRule
  · exact planConcrete_granted (planFallback_asked otherwise fell)

theorem planObject_granted (isObject : site.target = .object declared)
    (given : Gives (planObject env recurse site) pass (some program) next) :
    ∀ asked ∈ declared.asksFor (env.settings.ofType? declared.name),
      ¬ env.Withholds asked.1 asked.2 := by
  obtain ⟨impossible, -⟩ | ⟨_, other, same, alsoObject, planned⟩ := planObject_gives given
  · cases impossible
  obtain rfl := Option.some.inj same
  obtain rfl := Target.object.inj (isObject.symm.trans alsoObject)
  rcases planned with ⟨alone, single⟩ | ⟨own, found, ruled, several⟩
  · obtain ⟨create, middle, start, between, created, -⟩ := planSingle_gives single
    intro asked member
    rw [(ObjectTypeOf.mem_asksFor_single alone).mp member]
    exact planInstance_granted created
  · rw [found]
    exact planPolymorphic_granted ruled several

theorem standard_granted {levels : Nat} (isObject : site.target = .object declared)
    (given : Gives (standard env levels site) pass (some program) next) :
    ∀ asked ∈ declared.asksFor (env.settings.ofType? declared.name),
      ¬ env.Withholds asked.1 asked.2 := by
  obtain ⟨below, -, planned⟩ := standard_planObject isObject given
  exact planObject_granted isObject planned

end Planning

open Planning

/-! ## Figures

A figure is abstract. By default it is a square; it has a constructor, which no column leads to. -/

namespace Figures

def sketching : Constructor :=
  { ident := 41, owner := "Figure", parameters := [] }

def figure : ObjectType :=
  { ident := 40, name := "Figure", isAbstract := true
    properties := [{ name := "Name", target := .scalar .string }]
    constructors := [sketching] }

def square : ObjectType :=
  ObjectTypeOf.declare 42 "Square" false
    [{ name := "Name", target := .scalar .string },
      { name := "Side", target := .scalar (.int .int32) }] 43 []

def columns : List Column :=
  [Column.declare "name" .string, Column.declare "side" (.int .int32)]

def drawn : Except Failure Mapper :=
  Mapper.make .standard [] (.list (.object figure)) (Header.ofColumns columns)
    { types := [("Figure", { default := some square })] }

def sketched : Except Failure Mapper :=
  Mapper.make .standard [] (.object figure) (Header.ofColumns columns)
    { types := [("Figure", { preferred := some sketching })] }

theorem drawn_ok : ∃ mapper, drawn = .ok mapper := by
  have planned : drawn.isOk = true := by decide +kernel
  cases found : drawn with
  | ok mapper => exact ⟨mapper, rfl⟩
  | error failure =>
      rw [found] at planned
      cases planned

theorem sketched_abstract :
    (sketched.map fun mapper => (programMakings mapper.plan.program).any fun making =>
      making.type.isAbstract) = .ok true := by
  decide +kernel

end Figures

/-- Wherever a mapper makes an instance of an abstract type, on whichever path, it does so with the
constructor that is preferred for the type. Other abstract types are refused: an instance of one is
not planned, nor is a site that asks for one, at the root or anywhere below. -/
theorem Mapper.make_concrete {bindings : Bindings} {target : Target} {header : Header}
    {settings : Settings} {mapper : Mapper}
    (made : Mapper.make .standard bindings target header settings = .ok mapper) :
    (∀ making ∈ programMakings mapper.plan.program, making.type.isAbstract = true →
      (settings.ofType? making.type.name).bind TypePolicy.preferred = some making.constructor ∧
        making.constructor.Acceptable making.type) ∧
    (∀ declared, target.resolve bindings = .object declared →
      ∀ asked ∈ declared.asksFor (settings.ofType? declared.name),
        ¬ Environment.Withholds ⟨header, settings, bindings⟩ asked.1 asked.2) ∧
    (∀ (levels : Nat) (site : Site) (pass next : Pass) (program : Program) (declared : ObjectType),
      site.target = .object declared →
      standard ⟨header, settings, bindings⟩ levels site pass = (.ok (some program), next) →
      ∀ asked ∈ declared.asksFor (settings.ofType? declared.name),
        ¬ Environment.Withholds ⟨header, settings, bindings⟩ asked.1 asked.2) ∧
    ∀ (recurse : Planner) (site : Site) (pass : Pass) (type : ObjectType)
      (factory : Option Factory),
      Environment.Withholds ⟨header, settings, bindings⟩ type factory →
      planInstance ⟨header, settings, bindings⟩ recurse site type factory pass =
        (.error (.noUsableConstructor type.name), pass) := by
  obtain ⟨plan, planned, rfl⟩ := Except.map_eq_ok made
  obtain ⟨final, given, -⟩ := Plan.ofTarget_gives planned
  refine ⟨fun making member isAbstract => ?_, fun declared isObject => ?_, ?_, ?_⟩
  · obtain ⟨view, -, chooses⟩ :=
      standard_makings (deepestLevel + 1) given making (programMakings_steps _ ▸ member)
    cases chooses with
    | preferred isPreferred acceptable => exact ⟨isPreferred, acceptable⟩
    | best _ isConcrete => cases isAbstract.symm.trans isConcrete
  · exact standard_granted isObject given
  · intro levels site pass next program declared isObject planned
    exact standard_granted isObject planned
  · intro recurse site pass type factory withheld
    exact planInstance_refused withheld

theorem Figures.drawn_concrete : ∃ mapper, Figures.drawn = .ok mapper ∧
    ∀ making ∈ programMakings mapper.plan.program, making.type.isAbstract = true →
      (Settings.ofType? { types := [("Figure", { default := some Figures.square })] }
          making.type.name).bind TypePolicy.preferred = some making.constructor ∧
        making.constructor.Acceptable making.type := by
  obtain ⟨mapper, made⟩ := Figures.drawn_ok
  exact ⟨mapper, made, (Mapper.make_concrete made).1⟩

/-- A preferred constructor is not kept from making an abstract type. -/
theorem Figures.figure_sketched : ∃ mapper, Figures.sketched = .ok mapper ∧
    ∃ making ∈ programMakings mapper.plan.program, making.type.isAbstract = true := by
  obtain ⟨mapper, made, found⟩ := Except.map_eq_ok Figures.sketched_abstract
  exact ⟨mapper, made, List.any_eq_true.mp found⟩

end Unflatten
