import Unflatten.Mapper
import Unflatten.Proofs.Dispatch.Policies
import Unflatten.Proofs.Dispatch.Single
import Unflatten.Proofs.Planning.Instances
import Unflatten.Proofs.Planning.Linearity

/-!
# Dispatch on subtypes

A root target whose type has subtype rules maps each row as the type of the first rule that accepts
it would. No branch sees what the others have claimed: all are planned from no claims at all.
-/

set_option autoImplicit false

namespace Unflatten

open Planning

/-! ## Plans of object types -/

def Plan.ofOutcome : Except Failure Program × Pass → Except Failure Plan
  | (.ok program, pass) => .ok (Plan.ofProgram program pass.nextRegister)
  | (.error failure, _) => .error failure

def Pass.start (env : Environment) : Pass :=
  ⟨Claims.none env.header, existingRegister + 1⟩

namespace Planning

variable {env : Environment} {recurse planner : Planner} {site : Site} {type : ObjectType}

theorem inOrder_always {action : Planning Program} {pass : Pass}
    (always : planner site pass = ((action pass).1.map some, (action pass).2)) :
    inOrder site [planner] pass = ((action pass).1.map some, (action pass).2) := by
  have seen : Planning.claims pass = (.ok pass.claims, pass) := rfl
  have released : orRelease (planner site) pass = ((action pass).1.map some, (action pass).2) := by
    unfold orRelease
    rw [bind_eq, seen]
    dsimp only
    rw [bind_eq, always]
    cases action pass with
    | mk outcome next => cases outcome <;> rfl
  rw [inOrder, bind_eq, released]
  cases action pass with
  | mk outcome next => cases outcome <;> rfl

/-- A root target is planned even if no column is left for it. -/
theorem planObject_root {pass : Pass} (isObject : site.target = .object type)
    (isRoot : site.isRoot = true) :
    planObject env recurse site pass =
      match (env.settings.ofType? type.name).filter fun own => !own.subtypes.isEmpty with
      | some own =>
        ((planPolymorphic env recurse site type own pass).1.map some,
          (planPolymorphic env recurse site type own pass).2)
      | none =>
        ((planSingle env recurse site type (env.settings.ofType? type.name) pass).1.map some,
          (planSingle env recurse site type (env.settings.ofType? type.name) pass).2) := by
  have given (action : Planning Program) :
      (do pure (some (← action)) : Planning (Option Program)) pass =
        ((action pass).1.map some, (action pass).2) := by
    rw [bind_eq]
    cases action pass with
    | mk outcome next => cases outcome <;> rfl
  have there : isAbsent env site pass = (.ok false, pass) := by
    unfold isAbsent
    rw [isRoot]
    rfl
  unfold planObject
  rw [isObject]
  dsimp only
  rw [bind_eq, there]
  dsimp only
  cases own : env.settings.ofType? type.name with
  | none => exact given _
  | some policy =>
      cases rules : policy.subtypes.isEmpty with
      | true => simpa [Option.filter, rules] using given _
      | false => simpa [Option.filter, rules] using given _

end Planning

section Roots

variable {env : Environment} {target : Target} {type : ObjectType}

theorem Plan.ofTarget_object (isObject : target.resolve env.bindings = .object type) :
    Plan.ofTarget .standard env target =
      match (env.settings.ofType? type.name).filter fun own => !own.subtypes.isEmpty with
      | some own =>
        Plan.ofOutcome
          (planPolymorphic env (standard env deepestLevel) (Site.atRoot env.bindings (.object type))
            type own (Pass.start env))
      | none =>
        Plan.ofOutcome
          (planSingle env (standard env deepestLevel) (Site.atRoot env.bindings (.object type))
            type (env.settings.ofType? type.name) (Pass.start env)) := by
  have root : Site.atRoot env.bindings target = Site.atRoot env.bindings (.object type) := by
    rw [Site.atRoot, isObject]
    rfl
  have found (action : Planning Program)
      (always : planObject env (standard env deepestLevel)
          (Site.atRoot env.bindings (.object type)) (Pass.start env) =
        ((action (Pass.start env)).1.map some, (action (Pass.start env)).2)) :
      Plan.ofTarget .standard env target = Plan.ofOutcome (action (Pass.start env)) := by
    unfold Plan.ofTarget planWith
    rw [root, standard_object rfl, ← Pass.start, inOrder_always always]
    cases action (Pass.start env) with
    | mk outcome next => cases outcome <;> rfl
  have rooted := @planObject_root env (standard env deepestLevel)
    (Site.atRoot env.bindings (.object type)) type (Pass.start env) rfl rfl
  cases chosen : (env.settings.ofType? type.name).filter fun own => !own.subtypes.isEmpty with
  | some own =>
      rw [chosen] at rooted
      exact found _ rooted
  | none =>
      rw [chosen] at rooted
      exact found _ rooted

/-- Types that are planned as themselves: neither abstract nor with subtype rules. -/
structure Settings.IsPlain (settings : Settings) (type : ObjectType) : Prop where
  concrete : type.isAbstract = false
  unruled : ∀ own, settings.ofType? type.name = some own → own.subtypes = []

theorem Mapper.make_single {program : Program} {next : Pass}
    (unruled : ∀ own, env.settings.ofType? type.name = some own → own.subtypes = [])
    (given : Gives (planSingle env (standard env deepestLevel)
      (Site.atRoot env.bindings (.object type)) type (env.settings.ofType? type.name))
      (Pass.start env) program next) :
    Mapper.make .standard env.bindings (.object type) env.header env.settings =
      .ok ⟨.object type, Plan.ofProgram program next.nextRegister⟩ := by
  have isObject : (Target.object type).resolve env.bindings = .object type := rfl
  have none : ((env.settings.ofType? type.name).filter fun own => !own.subtypes.isEmpty) =
      none := by
    rw [Option.filter_eq_none_iff]
    intro own found
    simp [unruled own found]
  have planned : Plan.ofTarget .standard env (.object type) =
      .ok (Plan.ofProgram program next.nextRegister) := by
    rw [Plan.ofTarget_object isObject, none]
    dsimp only
    rw [given]
    rfl
  have same : (⟨env.header, env.settings, env.bindings⟩ : Environment) = env := rfl
  rw [Mapper.make, same, planned]
  rfl

end Roots

/-! ## Branches and their rules -/

section Rules

variable {env : Environment} {recurse : Planner} {site : Site} {start : Claims}
variable {pass next : Pass}

/-- The branch of a rule, planned for the type of the rule from the claims at the start. -/
def IsBranchOf (env : Environment) (recurse : Planner) (site : Site) (start : Claims)
    (low high : Register) (rule : SubtypeCase) (branch : Branch × Claims) : Prop :=
  branch.1.accepts = rule.accepts ∧ ∃ first last, low ≤ first ∧ last.nextRegister ≤ high ∧
    Gives (planConcrete env recurse site rule.target.objectType rule.target.factory?)
      ⟨start, first⟩ branch.1.program last

theorem planBranches_each (indexed : env.header.WellIndexed) (reliable : Reliable env recurse)
    (sized : start.length = env.header.length) {rules : List SubtypeCase}
    {branches : List (Branch × Claims)}
    (given : Gives (planBranches env recurse site start rules) pass branches next) :
    pass.nextRegister ≤ next.nextRegister ∧
      List.Forall₂ (IsBranchOf env recurse site start pass.nextRegister next.nextRegister) rules
        branches := by
  induction rules generalizing pass branches with
  | nil =>
      obtain ⟨rfl, rfl⟩ := gives_pure.mp given
      exact ⟨Nat.le_refl _, .nil⟩
  | cons rule rest ih =>
      obtain ⟨program, middle, others, concrete, planned, rfl⟩ := planBranches_cons given
      have sizedHere : (Pass.mk start pass.nextRegister).claims.length = env.header.length := sized
      have up : pass.nextRegister ≤ middle.nextRegister :=
        (planConcrete_planned indexed reliable sizedHere concrete).block.onward.registers
      obtain ⟨upRest, each⟩ := ih planned
      refine ⟨Nat.le_trans up upRest, .cons ⟨rfl, _, _, Nat.le_refl _, upRest, concrete⟩ ?_⟩
      exact each.imp fun rule branch isBranch => by
        obtain ⟨accepts, first, last, low, high, given⟩ := isBranch
        exact ⟨accepts, first, last, Nat.le_trans up low, high, given⟩

theorem find?_branch {low high : Register} {rules : List SubtypeCase}
    {branches : List (Branch × Claims)} (row : Row)
    (each : List.Forall₂ (IsBranchOf env recurse site start low high) rules branches) :
    Option.Rel (fun rule branch => ∃ claims,
        IsBranchOf env recurse site start low high rule (branch, claims))
      (rules.find? fun rule => rule.accepts row)
      ((branches.map Prod.fst).find? fun branch => branch.accepts row) := by
  induction each with
  | nil => exact .none
  | @cons rule branch rules branches isBranch rest ih =>
      rw [List.map_cons, List.find?_cons, List.find?_cons, isBranch.1]
      cases rule.accepts row with
      | true => exact .some ⟨branch.2, isBranch⟩
      | false => exact ih

end Rules

/-! ## Mappers -/

section Mappers

variable {env : Environment} {site : Site} {type : ObjectType} {start : Register} {next : Pass}
variable {program : Program}

theorem Plan.ofTarget_selects {target : Target} {base : ObjectType} {own : TypePolicy}
    {plan : Plan} (indexed : env.header.WellIndexed)
    (isBase : target.resolve env.bindings = .object base)
    (ruled : env.settings.ofType? base.name = some own) (rules : own.subtypes ≠ [])
    (made : Plan.ofTarget .standard env target = .ok plan) :
    ∃ branches middle fallback between,
      Gives (planBranches env (standard env deepestLevel)
          (Site.atRoot env.bindings (.object base)) (Claims.none env.header) own.subtypes)
        (Pass.start env) branches middle ∧
      Gives (planFallback env (standard env deepestLevel)
          (Site.atRoot env.bindings (.object base)) base own)
        ⟨Claims.none env.header, middle.nextRegister⟩ fallback between ∧
      middle.nextRegister ≤ between.nextRegister ∧
      between.nextRegister ≤ plan.registerCount ∧
      ∀ row, plan.run row .null =
        match (branches.map Prod.fst).find? fun branch => branch.accepts row with
        | some branch =>
          Program.outcome row (Registers.start plan.registerCount .null) branch.program
        | none => fallback.outcome row (Registers.start plan.registerCount .null) := by
  have reliable : Reliable env (standard env deepestLevel) := standard_reliable indexed _
  have sized : (Claims.none env.header).length = env.header.length :=
    Claims.length_none _
  have chosen : ((env.settings.ofType? base.name).filter fun own => !own.subtypes.isEmpty) =
      some own := by
    rw [ruled, Option.filter_some]
    simp [rules]
  rw [Plan.ofTarget_object isBase, chosen] at made
  dsimp only at made
  cases planned : planPolymorphic env (standard env deepestLevel)
      (Site.atRoot env.bindings (.object base)) base own (Pass.start env) with
  | mk outcome final =>
      rw [planned] at made
      cases outcome with
      | error failure => cases made
      | ok program =>
          cases made
          obtain ⟨branches, middle, fallback, between, branching, falls, way⟩ :=
            planPolymorphic_gives planned
          rcases way with ⟨impossible, -⟩ | ⟨existing, update, after, isThere, updates, rfl, rfl⟩
          · cases impossible
          · cases isThere
            have sizedMiddle :
                (Pass.mk (Claims.none env.header) middle.nextRegister).claims.length =
                  env.header.length := sized
            have up := (planFallback_planned indexed reliable sizedMiddle
              falls).block.onward.registers
            obtain ⟨assigns, sets, rfl⟩ := planAssigned_gives updates
            have sizedUpdate : (Pass.mk (Claims.none env.header)
                between.advanced.nextRegister).claims.length = env.header.length := sized
            have upward := (setProperties_planned indexed reliable sizedUpdate
              (Nat.succ_pos _) sets).onward.registers
            have behind : between.nextRegister + 1 ≤ after.nextRegister := upward
            have counted (program : Program) : after.nextRegister + 1 ≤
                (Plan.ofProgram program after.advanced.nextRegister).registerCount :=
              Nat.le_max_left _ _
            refine ⟨branches, middle, fallback, between, branching, falls, up,
              Nat.le_trans (by lia) (counted _), fun row => ?_⟩
            rw [Plan.run_outcome]
            refine (Program.outcome_reuse ?_ ?_).trans (Program.outcome_select ?_)
            · rw [Registers.start_blank]
              rfl
            · rw [Registers.size_start]
              exact counted _
            · rw [Registers.size_start]
              exact Nat.le_trans behind (Nat.le_of_succ_le (counted _))

theorem concreteOf_plain (concrete : type.isAbstract = false) (own : Option TypePolicy) :
    concreteOf type own = type := by
  unfold concreteOf
  split
  · rw [concrete]
    rfl
  · rfl

/-- A plan that runs the branch of a type for a row maps the row as the type by itself is mapped
in any environment that plans it likewise and has no rules for it. -/
theorem Mapper.map_branch {other : Environment} {base : ObjectType} {plan : Plan} {row : Row}
    (indexed : env.header.WellIndexed) (started : existingRegister + 1 ≤ start)
    (fits : next.nextRegister ≤ plan.registerCount)
    (given : Gives (planConcrete env (standard env deepestLevel)
      (Site.atRoot env.bindings (.object base)) type none) ⟨Claims.none env.header, start⟩ program
      next)
    (concrete : type.isAbstract = false)
    (runs : plan.run row .null =
      program.outcome row (Registers.start plan.registerCount .null))
    (unruled : ∀ own, other.settings.ofType? type.name = some own → own.subtypes = [])
    (sameHeader : other.header = env.header)
    (likewise : planSingle other (standard other deepestLevel)
        (Site.atRoot other.bindings (.object type)) type (other.settings.ofType? type.name) =
      planSingle env (standard env deepestLevel) (Site.atRoot env.bindings (.object type)) type
        (env.settings.ofType? type.name)) :
    ∃ direct,
      Mapper.make .standard other.bindings (.object type) other.header other.settings =
        .ok direct ∧
      plan.run row .null = direct.map row := by
  have sized : (Claims.none env.header).length = env.header.length :=
    Claims.length_none _
  have isType : concreteOf type (env.settings.ofType? type.name) = type :=
    concreteOf_plain concrete _
  have scope : (Site.atRoot env.bindings (.object type)).scope =
      (Site.atRoot env.bindings (.object base)).scope := rfl
  obtain ⟨single, last, planned, agrees⟩ :=
    planConcrete_single indexed scope rfl sized started given rfl isType
  have planned : Gives (planSingle other (standard other deepestLevel)
      (Site.atRoot other.bindings (.object type)) type (other.settings.ofType? type.name))
      (Pass.start other) single last := by
    rw [likewise, Pass.start, sameHeader]
    exact planned
  refine ⟨_, Mapper.make_single unruled planned, runs.trans ?_⟩
  rw [Mapper.map, Plan.run_outcome]
  refine (agrees row _ _ (Registers.start_blank _) (Registers.start_blank _) ?_ ?_).symm
  · rw [Registers.size_start]
    exact Nat.le_max_left _ _
  · rw [Registers.size_start]
    exact fits

end Mappers

/-! ## Parcels

Stamped parcels are letters, measured ones boxes, and all others stand on a pallet. -/

namespace Parcels

def parcel : ObjectType :=
  ObjectTypeOf.declare 1 "Parcel" true [{ name := "Id", target := .scalar (.int .int32) }] 11 []

def letter : ObjectType :=
  ObjectTypeOf.declare 2 "Letter" false
    [{ name := "Id", target := .scalar (.int .int32) },
      { name := "Stamp", target := .scalar .string }] 12 []

def box : ObjectType :=
  ObjectTypeOf.declare 3 "Box" false
    [{ name := "Id", target := .scalar (.int .int32) },
      { name := "Stamp", target := .any },
      { name := "Height", target := .scalar (.int .int32) }] 13 []

def pallet : ObjectType :=
  ObjectTypeOf.declare 4 "Pallet" false [{ name := "Id", target := .scalar (.int .int32) }] 14 []

def isStamped (row : Row) : Bool :=
  !(row.value 1).isNull

def isMeasured (row : Row) : Bool :=
  !(row.value 2).isNull

def policy : TypePolicy where
  default := some pallet
  subtypes := [⟨1, isStamped, .type letter⟩, ⟨2, isMeasured, .type box⟩]

def settings : Settings where
  types := [("Parcel", policy)]

def columns : List Column :=
  [Column.declare "Id" (.int .int32), Column.declare "Stamp" .string,
    Column.declare "Height" (.int .int32)]

def mapper? (type : ObjectType) : Except Failure Mapper :=
  Mapper.make .standard [] (.object type) (Header.ofColumns columns) settings

theorem mapper?_ok : ∃ mapper, mapper? parcel = .ok mapper := by
  have made : (mapper? parcel).isOk = true := by decide +kernel
  exact Except.of_isOk made

theorem plain {type : ObjectType} (concrete : type.isAbstract = false)
    (unset : settings.ofType? type.name = none) : settings.IsPlain type := by
  refine ⟨concrete, fun own found => ?_⟩
  rw [unset] at found
  cases found

theorem types_plain : ∀ rule ∈ policy.subtypes,
    ∃ type, rule.target = .type type ∧ settings.IsPlain type := by
  intro rule member
  rcases List.mem_cons.mp member with rfl | member
  · exact ⟨letter, rfl, plain rfl rfl⟩
  · rw [List.mem_singleton.mp member]
    exact ⟨box, rfl, plain rfl rfl⟩

def measured : Row :=
  ⟨columns, [.int .int32 (FixedInt.zero .int32), .null, .int .int32 (FixedInt.zero .int32)]⟩

def bare : Row :=
  ⟨columns, [.int .int32 (FixedInt.zero .int32)]⟩

end Parcels

/-- A row is mapped to a type with subtype rules as it is mapped to the type of the first rule that
accepts it, failures included. Without such a rule it is mapped as to the default type, else as to
the type itself without its rules, if that is not abstract and not met again below itself. -/
theorem Mapper.map_dispatch {bindings : Bindings} {target : Target} {base : ObjectType}
    {columns : List Column} {settings : Settings} {own : TypePolicy} {mapper : Mapper}
    (isBase : target.resolve bindings = .object base)
    (ruled : settings.ofType? base.name = some own) (rules : own.subtypes ≠ [])
    (types : ∀ rule ∈ own.subtypes, ∃ type, rule.target = .type type ∧ settings.IsPlain type)
    (defaults : ∀ default, own.default = some default → settings.IsPlain default)
    (made : Mapper.make .standard bindings target (Header.ofColumns columns) settings =
      .ok mapper) (row : Row) :
    (∀ rule, (own.subtypes.find? fun rule => rule.accepts row) = some rule →
      ∃ direct,
        Mapper.make .standard bindings (.object rule.target.objectType) (Header.ofColumns columns)
          settings = .ok direct ∧
        mapper.map row = direct.map row) ∧
    ((own.subtypes.find? fun rule => rule.accepts row) = none →
      (∀ default, own.default = some default →
        ∃ direct,
          Mapper.make .standard bindings (.object default) (Header.ofColumns columns) settings =
            .ok direct ∧
          mapper.map row = direct.map row) ∧
      (own.default = none → base.isAbstract = false →
        base.IsOutermost bindings (settings.withoutRules base.name) →
        ∃ direct,
          Mapper.make .standard bindings (.object base) (Header.ofColumns columns)
            (settings.withoutRules base.name) = .ok direct ∧
          mapper.map row = direct.map row) ∧
      (own.default = none → base.isAbstract = true →
        mapper.map row = .error (.noSubtype base.name))) := by
  let env : Environment := ⟨Header.ofColumns columns, settings, bindings⟩
  let without : Environment := ⟨Header.ofColumns columns, settings.withoutRules base.name, bindings⟩
  have indexed : env.header.WellIndexed := Header.ofColumns_wellIndexed columns
  have reliable : Reliable env (standard env deepestLevel) := standard_reliable indexed _
  have sized : (Claims.none env.header).length = env.header.length :=
    Claims.length_none _
  obtain ⟨plan, planned, rfl⟩ := Except.map_eq_ok made
  obtain ⟨branches, middle, fallback, between, branching, falls, up, fits, selects⟩ :=
    Plan.ofTarget_selects indexed isBase ruled rules planned
  obtain ⟨started, each⟩ := planBranches_each indexed reliable sized branching
  have found := find?_branch row each
  have selected := selects row
  cases taken : (branches.map Prod.fst).find? fun branch => branch.accepts row with
  | some branch =>
      rw [taken] at found selected
      constructor
      · intro rule chosen
        rw [chosen] at found
        cases found with
        | some isBranch =>
            obtain ⟨claims, -, first, last, low, high, given⟩ := isBranch
            obtain ⟨type, isType, plain⟩ := types rule (List.mem_of_find?_eq_some chosen)
            have within : last.nextRegister ≤ plan.registerCount :=
              Nat.le_trans high (Nat.le_trans up fits)
            rw [isType] at given ⊢
            have mapped : ∃ direct,
                Mapper.make .standard env.bindings (.object type) env.header env.settings =
                  .ok direct ∧
                plan.run row .null = direct.map row :=
              Mapper.map_branch indexed low within given plain.concrete selected plain.unruled rfl
                rfl
            exact mapped
      · intro missing
        rw [missing] at found
        cases found
  | none =>
      rw [taken] at found selected
      constructor
      · intro rule chosen
        rw [chosen] at found
        cases found
      · intro _
        refine ⟨fun default isDefault => ?_, fun noDefault concrete outermost => ?_,
          fun noDefault isAbstract => ?_⟩
        · have plain := defaults default isDefault
          rw [planFallback, isDefault] at falls
          have mapped : ∃ direct,
              Mapper.make .standard env.bindings (.object default) env.header env.settings =
                .ok direct ∧
              plan.run row .null = direct.map row :=
            Mapper.map_branch indexed started fits falls plain.concrete selected plain.unruled rfl
              rfl
          exact mapped
        · rw [planFallback, noDefault, concrete] at falls
          have bare : ∀ other, without.settings.ofType? base.name = some other →
              other.subtypes = [] := by
            intro other isOther
            cases (Settings.ofType?_withoutRules ruled).symm.trans isOther
            rfl
          have mapped : ∃ direct,
              Mapper.make .standard without.bindings (.object base) without.header
                without.settings = .ok direct ∧
              plan.run row .null = direct.map row :=
            Mapper.map_branch indexed started fits falls concrete selected bare rfl
              (planSingle_withoutRules ruled noDefault outermost _ _)
          exact mapped
        · rcases planFallback_gives falls with ⟨default, isDefault, -⟩ | ⟨-, -, -, rfl⟩ |
            ⟨-, concrete, -⟩
          · cases noDefault.symm.trans isDefault
          · exact selected
          · cases isAbstract.symm.trans concrete

theorem Parcels.dispatched : ∃ mapper, Parcels.mapper? Parcels.parcel = .ok mapper ∧
    (∃ direct, Parcels.mapper? Parcels.box = .ok direct ∧
      mapper.map Parcels.measured = direct.map Parcels.measured) ∧
    ∃ direct, Parcels.mapper? Parcels.pallet = .ok direct ∧
      mapper.map Parcels.bare = direct.map Parcels.bare := by
  obtain ⟨mapper, made⟩ := Parcels.mapper?_ok
  have isBase : (Target.object Parcels.parcel).resolve [] = .object Parcels.parcel := rfl
  have ruled : Parcels.settings.ofType? Parcels.parcel.name = some Parcels.policy := rfl
  have defaults : ∀ default, Parcels.policy.default = some default →
      Parcels.settings.IsPlain default := by
    intro default isDefault
    cases isDefault
    exact Parcels.plain rfl rfl
  have dispatched := Mapper.map_dispatch isBase ruled (List.cons_ne_nil _ _) Parcels.types_plain
    defaults made
  refine ⟨mapper, made, ?_, ?_⟩
  · exact (dispatched Parcels.measured).1 ⟨2, Parcels.isMeasured, .type Parcels.box⟩ rfl
  · exact ((dispatched Parcels.bare).2 rfl).1 Parcels.pallet rfl

/-! ## Chests

A chest may stand in a chest, and purses may stand for chests. No row is a purse here, and still the
purse that might be in a chest takes the column that the outer chest would have had. -/

namespace Chests

def chestRef : Reference :=
  ⟨1, "Chest"⟩

def purse : ObjectType :=
  ObjectTypeOf.declare 2 "Purse" false [{ name := "Code", target := .scalar .string }] 12 []

def chest : ObjectType :=
  ObjectTypeOf.declare 1 "Chest" false
    [{ name := "Inner", target := .reference chestRef },
      { name := "Inner_Code", target := .scalar .string }] 11 []

def policy : TypePolicy where
  subtypes := [⟨1, fun _ => false, .type purse⟩]

def settings : Settings where
  types := [("Chest", policy)]

def columns : List Column :=
  [Column.declare "inner_code" .string]

def row : Row :=
  ⟨columns, [.string "x"]⟩

def mapper? (settings : Settings) : Except Failure Mapper :=
  Mapper.make .standard [(chestRef.ident, chest)] (.object chest) (Header.ofColumns columns)
    settings

/-- Whether the outer chest is left without its code. -/
def lacksCode (mapper : Mapper) : Except Failure Bool :=
  (mapper.map row).map fun value => (value.field "Inner_Code").isNull

theorem lacksCode_eq : (mapper? settings).bind lacksCode = .ok true ∧
    (mapper? (settings.withoutRules "Chest")).bind lacksCode = .ok false := by
  decide +kernel

end Chests

/-- With rules that accept no row, a chest is not mapped as it is without rules. -/
theorem Chests.rules_below : Chests.settings.ofType? Chests.chest.name = some Chests.policy ∧
    (∀ rule ∈ Chests.policy.subtypes, ∃ type, rule.target = .type type ∧
      Chests.settings.IsPlain type) ∧
    Chests.policy.default = none ∧ Chests.chest.isAbstract = false ∧
    (Chests.policy.subtypes.find? fun rule => rule.accepts Chests.row) = none ∧
    ∃ mapper direct, Chests.mapper? Chests.settings = .ok mapper ∧
      Chests.mapper? (Chests.settings.withoutRules Chests.chest.name) = .ok direct ∧
      mapper.map Chests.row ≠ direct.map Chests.row := by
  refine ⟨rfl, ?_, rfl, rfl, rfl, ?_⟩
  · intro rule member
    rw [List.mem_singleton.mp member]
    refine ⟨Chests.purse, rfl, rfl, fun own found => ?_⟩
    cases found
  · obtain ⟨lacks, has⟩ := Chests.lacksCode_eq
    obtain ⟨mapper, direct, isMapper, isDirect, apart⟩ :=
      Except.bind_apart lacks has Bool.false_ne_true.symm
    refine ⟨mapper, direct, isMapper, isDirect, fun same => apart ?_⟩
    rw [Chests.lacksCode, Chests.lacksCode, same]

end Unflatten
