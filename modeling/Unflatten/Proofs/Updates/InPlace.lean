import Unflatten.Mapper
import Unflatten.Proofs.Conformance.Objects
import Unflatten.Proofs.Construction.Columns
import Unflatten.Proofs.Keys.Reach
import Unflatten.Proofs.Planning.Instances
import Unflatten.Proofs.Planning.Linearity
import Unflatten.Proofs.Program.Blank
import Unflatten.Proofs.Updates.Kept

/-!
# Updates in place

Where an instance exists already, it is handed down from object to object: each property takes its
present value out, and what is planned for it updates that value or makes a new one. A member is set
only if a column is left for it, but for untyped members, which are set in any case.
-/

set_option autoImplicit false

namespace Unflatten

open Planning

/-! ## Sites with columns -/

namespace Planning

variable {env : Environment} {recurse : Planner} {site : Site} {pass next : Pass}
variable {program : Program} {levels : Nat}

theorem present_of_planned {rest : Planning (Option Program)} (isMember : site.isRoot = false)
    (given : Gives (do if ← isAbsent env site then pure none else rest) pass (some program) next) :
    env.header.available pass.claims site.scope ≠ [] := by
  obtain ⟨absent, between, found, given⟩ := gives_bind.mp given
  obtain ⟨rfl, rfl⟩ := gives_isAbsent.mp found
  intro none
  rw [isMember, none] at given
  obtain ⟨impossible, -⟩ := gives_pure.mp given
  cases impossible

theorem standard_present (isMember : site.isRoot = false) (typed : site.target.isAny = false)
    (given : Gives (standard env levels site) pass (some program) next) :
    env.header.available pass.claims site.scope ≠ [] := by
  rcases standard_gives given with ⟨impossible, -⟩ |
    ⟨below, -, planner, member, planned, same, given⟩
  · cases impossible
  cases same
  simp only [standardPlanners, List.mem_cons, List.not_mem_nil, or_false] at member
  rcases member with rfl | rfl | rfl | rfl | rfl | rfl | rfl
  · rcases planUntypedMember_gives given with ⟨impossible, -⟩ | ⟨takes, -⟩
    · cases impossible
    · rw [takesAllColumns, typed] at takes
      cases takes
  · rcases planLeaf_gives given with ⟨impossible, -⟩ |
      ⟨_, leaf, -, -, ⟨column, first, -⟩ | ⟨isRoot, -⟩⟩
    · cases impossible
    · intro none
      rw [none] at first
      cases first
    · rw [isMember] at isRoot
      cases isRoot
  · unfold planTuple at given
    split at given
    · split at given
      · cases (gives_pure.mp given).1
      · exact present_of_planned isMember given
    · cases (gives_pure.mp given).1
  · unfold planArray at given
    split at given
    · exact present_of_planned isMember given
    · cases (gives_pure.mp given).1
  · rcases planDictionary_gives given with ⟨impossible, -⟩ | ⟨_, -, given⟩ | ⟨_, -, given⟩
    · cases impossible
    · exact present_of_planned isMember given
    · exact present_of_planned isMember given
  · rcases planSequence_gives given with ⟨impossible, -⟩ | ⟨_, -, given⟩ | ⟨_, -, given⟩
    · cases impossible
    · exact present_of_planned isMember given
    · exact present_of_planned isMember given
  · unfold planObject at given
    split at given
    · exact present_of_planned isMember given
    · cases (gives_pure.mp given).1

end Planning

/-! ## Runs -/

section Runs

variable {row : Row} {pass next updated : Pass} {target register into : Register}
variable {input output : Value → Prop}

/-- A member takes its present value out of the target and puts back what comes of it. -/
theorem Brings.member {held changed : Value → Prop} {related : Value → Value → Prop}
    {value : Program} {name : String} (known : target < pass.nextRegister)
    (planned : Planned (some pass.nextRegister) pass.advanced value next)
    (yields : ∀ present,
      Yields row (some pass.nextRegister) (fun value => value = present) (related present) value
        next)
    (brings : ∀ before after, held before → related (before.field name) after →
      changed (before.setField name after)) :
    Brings row target held changed
      (.project target name pass.nextRegister ::
        (value.steps ++ [.assign target name value.result])) next := by
  intro registers finished fits holds ran
  rw [runSteps, runStep] at ran
  simp only [] at ran
  have apart : target ≠ pass.nextRegister := Nat.ne_of_lt known
  have older : pass.nextRegister + 1 ≤ next.nextRegister := planned.block.onward.registers
  have fitsProjected : next.nextRegister ≤
      (registers.write pass.nextRegister ((registers.get target).field name)).size := by
    rw [Registers.size_write]
    exact fits
  obtain ⟨between, ranMember, same⟩ := planned.added_get (fun held => held.setField name)
    (Nat.lt_succ_of_lt known) (by simpa using apart) (fun registers => by rw [runStep])
    fitsProjected ran
  rw [same, Registers.get_write_other apart]
  refine brings _ _ holds (yields _ _ between fitsProjected (fun other same => ?_) ranMember)
  cases same
  exact Registers.get_write_same (Nat.lt_of_lt_of_le older fits)

theorem Keeps.member {invariant : Value → Prop} {related : Value → Value → Prop} {value : Program}
    {name : String} (known : target < pass.nextRegister)
    (planned : Planned (some pass.nextRegister) pass.advanced value next)
    (yields : ∀ held,
      Yields row (some pass.nextRegister) (fun present => present = held) (related held) value next)
    (keeps : ∀ held changed, invariant held → related (held.field name) changed →
      invariant (held.setField name changed)) :
    Keeps row target invariant
      (.project target name pass.nextRegister ::
        (value.steps ++ [.assign target name value.result])) next :=
  Brings.member known planned yields keeps

theorem Yields.reused {expectation : Expectation} {update create : Program}
    (updates : Yields row (some register) input output update updated)
    (accepts : ∀ value, input value → expectation.accepts value = true)
    (behind : updated.nextRegister ≤ next.nextRegister) (inside : into < next.nextRegister) :
    Yields row (some register) input output
      (Program.single (.reuse register expectation update create into) into) next := by
  intro registers finished fits starts ran
  have accepted := accepts _ (starts register rfl)
  have ran : runSteps row registers [.reuse register expectation update create into] =
      .ok finished := ran
  rw [runSteps_single, runStep, accepted, if_pos rfl] at ran
  exact Yields.into updates (Nat.le_trans behind fits) (Nat.lt_of_lt_of_le inside fits) starts ran

theorem Yields.created {expectation : Expectation} {update create : Program} {made : Pass}
    (creates : Yields row none (fun _ => True) output create made)
    (refuses : ∀ value, input value → expectation.accepts value = false)
    (behind : made.nextRegister ≤ next.nextRegister) (inside : into < next.nextRegister) :
    Yields row (some register) input output
      (Program.single (.reuse register expectation update create into) into) next := by
  intro registers finished fits starts ran
  have refused := refuses _ (starts register rfl)
  have ran : runSteps row registers [.reuse register expectation update create into] =
      .ok finished := ran
  rw [runSteps_single, runStep, refused, if_neg Bool.false_ne_true] at ran
  exact Yields.into creates (Nat.le_trans behind fits) (Nat.lt_of_lt_of_le inside fits)
    (fun _ impossible => nomatch impossible) ran

end Runs

/-! ## Properties -/

/-- A relation between an object and what has become of it, as an instance of a type: every object is
related to itself, and it stays related when a property that may be set is set, provided that an
instance within it is related to what comes in its place. -/
structure Environment.Withstands (env : Environment)
    (related : ObjectType → Scope → Object → Object → Prop) : Prop where
  refl : ∀ type scope object, related type scope object object
  set : ∀ {type : ObjectType} {scope : Scope} {property : Property} {before after : Object}
      {value : Value}, property ∈ type.properties → env.MaySet scope property →
    related type scope before after →
    (∀ (inner : Object) (declared : ObjectType),
      property.target.resolve env.bindings = .object declared → property.isSink = false →
        after.toValue.field property.name = inner.toValue →
          ∃ changed : Object, value = changed.toValue ∧
            related (env.settings.updatedType declared)
              (scope.member property.name env.settings.separator) inner changed) →
      related type scope before (after.set property.name value)

/-- The value is what has become of the object. -/
def Object.Becomes (related : ObjectType → Scope → Object → Object → Prop) (type : ObjectType)
    (scope : Scope) (before : Object) (value : Value) : Prop :=
  ∃ after : Object, value = after.toValue ∧ related type scope before after

/-- The value is what has been kept of the object, as an instance of the type. -/
def Environment.IsKept (env : Environment) (type : ObjectType) (scope : Scope) (before : Object)
    (value : Value) : Prop :=
  ∃ after : Object, value = after.toValue ∧
    Kept env (fun declared => declared = type) scope before after

theorem Kept.withstands (env : Environment) :
    env.Withstands fun type => Kept env fun declared => declared = type := by
  refine ⟨fun type scope object => Kept.refl env _ scope object, ?_⟩
  intro type scope property before after value member may kept updates
  refine kept.set rfl member may fun inner found only => ?_
  obtain ⟨isPlain, declared, isObject⟩ := only type rfl property member may.1 rfl
  obtain ⟨changed, rfl, further⟩ :=
    updates inner declared isObject isPlain (Object.field_toValue found)
  refine ⟨changed, rfl, further.mono ?_⟩
  rintro _ rfl
  exact ⟨type, rfl, property, member, may.1, rfl, declared, isObject, rfl⟩

/-- The planner plans updates after which objects are related to what they were. -/
structure UpdatesInPlace (env : Environment) (row : Row)
    (related : ObjectType → Scope → Object → Object → Prop) (recurse : Planner) : Prop where
  withstands : env.Withstands related
  reliable : Reliable env recurse
  present : ∀ {site : Site} {pass next : Pass} {program : Program}, site.isRoot = false →
    site.target.isAny = false → Gives (recurse site) pass (some program) next →
      env.header.available pass.claims site.scope ≠ []
  updates : ∀ {site : Site} {pass next : Pass} {program : Program} {register : Register}
      {declared : ObjectType}, pass.claims.length = env.header.length →
    site.existing = some register → register < pass.nextRegister →
    site.target = .object declared → Gives (recurse site) pass (some program) next →
      ∀ before : Object,
        Yields row (some register) (fun present => present = before.toValue)
          (before.Becomes related (env.settings.updatedType declared) site.scope) program next

namespace Planning

variable {env : Environment} {recurse : Planner} {row : Row} {site : Site} {pass next : Pass}
variable {type : ObjectType} {property : Property} {target : Register} {steps : List Step}
variable {before : Object}

section Changes

variable {invariant : Value → Prop} (related : Value → Value → Prop)
variable (indexed : env.header.WellIndexed) (reliable : Reliable env recurse)
variable (sized : pass.claims.length = env.header.length) (known : target < pass.nextRegister)
include reliable sized known

include indexed in
/-- What a leaf property reads may be anything; what is planned for another one is related to the
value that it finds. -/
theorem setProperty_changes
    (reads : ∀ {leaf : Leaf} {column : HeaderColumn},
      (property.target.leaf?.filter fun leaf => !leaf.isAny) = some leaf →
      env.header.find? pass.claims site.scope (foldName property.name) = some column →
      ∀ held value, invariant held → invariant (held.setField property.name value))
    (yields : ∀ {value : Program},
      Gives (recurse (site.member env property.name property.target (some pass.nextRegister)))
        pass.advanced (some value) next →
      ∀ held, Yields row (some pass.nextRegister) (fun present => present = held) (related held)
        value next)
    (keeps : ∀ {value : Program},
      Gives (recurse (site.member env property.name property.target (some pass.nextRegister)))
        pass.advanced (some value) next →
      ∀ held changed, invariant held → related (held.field property.name) changed →
        invariant (held.setField property.name changed))
    (given : Gives (setProperty env recurse site target property) pass steps next) :
    Keeps row target invariant steps next := by
  rcases setProperty_gives given with ⟨leaf, isLeaf, way⟩ | ⟨-, found, isMember, rfl⟩
  · rcases way with ⟨rfl, rfl⟩ | ⟨column, value, isRead, found, rfl⟩
    · exact Keeps.nil
    · have planned := (read_planned (Header.find?_unclaimed indexed sized found) isRead).1
      have anything : Yields row none (fun _ => True) (fun _ => True) value next :=
        fun _ _ _ _ _ => trivial
      exact Keeps.added (fun held => held.setField property.name) planned anything known
        (fun registers => by rw [runStep]) fun held value holds _ => reads isLeaf found _ _ holds
  · cases found with
    | none => exact Keeps.nil
    | some value =>
        have existing : ∀ register,
            (site.member env property.name property.target (some pass.nextRegister)).existing =
              some register → register < pass.advanced.nextRegister :=
          Register.known_existing rfl (Nat.lt_succ_self _)
        have sized : pass.advanced.claims.length = env.header.length := sized
        have planned := reliable.plans sized existing isMember
        exact Keeps.member known planned (yields isMember) (keeps isMember)

include indexed in
theorem setProperty_stable
    (stable : ∀ held value, invariant held → invariant (held.setField property.name value))
    (given : Gives (setProperty env recurse site target property) pass steps next) :
    Keeps row target invariant steps next :=
  setProperty_changes (fun _ _ => True) indexed reliable sized known (fun _ _ => stable)
    (fun _ _ _ _ _ _ _ => trivial) (fun _ held changed holds _ => stable held changed holds) given

theorem setSink_stable
    (stable : ∀ held value, invariant held → invariant (held.setField property.name value))
    (given : Gives (setSink env recurse site target property) pass steps next) :
    Keeps row target invariant steps next := by
  obtain ⟨found, sink, rfl⟩ := setSink_gives given
  cases found with
  | none => exact Keeps.nil
  | some value =>
      have planned := planSink_planned reliable sized sink
      have anything : Yields row none (fun _ => True) (fun _ => True) value next :=
        fun _ _ _ _ _ => trivial
      exact Keeps.added (fun held => held.setField property.name) planned anything known
        (fun registers => by rw [runStep]) fun held value holds _ => stable held value holds

end Changes

section Properties

variable {related : ObjectType → Scope → Object → Object → Prop}
variable (inPlace : UpdatesInPlace env row related recurse)

theorem may_of_found {column : HeaderColumn} (assignable : property.isAssignable = true)
    (found : env.header.find? pass.claims site.scope (foldName property.name) = some column) :
    env.MaySet site.scope property := by
  have named := List.find?_some found
  rw [beq_iff_eq] at named
  obtain ⟨isColumn, free⟩ := List.mem_filter.mp (List.mem_of_find?_eq_some found)
  rw [Bool.and_eq_true] at free
  exact ⟨assignable, Or.inr (Or.inr ⟨column, isColumn, Or.inl ⟨free.2, named⟩⟩)⟩

theorem may_of_available (assignable : property.isAssignable = true)
    (present : env.header.available pass.claims
      (site.scope.member property.name env.settings.separator) ≠ []) :
    env.MaySet site.scope property := by
  obtain ⟨column, member⟩ := List.exists_mem_of_ne_nil _ present
  obtain ⟨isColumn, covers⟩ := Header.mem_available member
  exact ⟨assignable, Or.inr (Or.inr ⟨column, isColumn, Or.inr covers⟩)⟩

theorem Becomes.setField (withstands : env.Withstands related) {held value : Value}
    (member : property ∈ type.properties) (may : env.MaySet site.scope property)
    (holds : before.Becomes related type site.scope held)
    (updated : ∀ (inner : Object) (declared : ObjectType),
      property.target.resolve env.bindings = .object declared → property.isSink = false →
        held.field property.name = inner.toValue →
          inner.Becomes related (env.settings.updatedType declared)
            (site.scope.member property.name env.settings.separator) value) :
    before.Becomes related type site.scope (held.setField property.name value) := by
  obtain ⟨object, rfl, isRelated⟩ := holds
  exact ⟨object.set property.name value, rfl, withstands.set member may isRelated updated⟩

include inPlace

theorem setProperty_inPlace (indexed : env.header.WellIndexed)
    (sized : pass.claims.length = env.header.length) (known : target < pass.nextRegister)
    (member : property ∈ type.properties) (assignable : property.isAssignable = true)
    (given : Gives (setProperty env recurse site target property) pass steps next) :
    Keeps row target (before.Becomes related type site.scope) steps next := by
  refine setProperty_changes
    (fun held changed => ∀ (inner : Object) (declared : ObjectType),
      property.target.resolve env.bindings = .object declared → property.isSink = false →
        held = inner.toValue → inner.Becomes related (env.settings.updatedType declared)
          (site.scope.member property.name env.settings.separator) changed)
    indexed inPlace.reliable sized known (fun isLeaf found held value holds => ?_)
    (fun isMember held => ?_) (fun isMember held changed holds updated => ?_) given
  · refine Becomes.setField inPlace.withstands member (may_of_found assignable found) holds
      fun inner declared isObject _ _ => ?_
    have noLeaf := @Target.leaf?_resolve env.bindings property.target
    rw [isObject, (Option.filter_eq_some_iff.mp isLeaf).1] at noLeaf
    cases noLeaf
  · have sized : pass.advanced.claims.length = env.header.length := sized
    intro registers finished fits starts ran inner declared isObject _ same
    refine inPlace.updates sized rfl (Nat.lt_succ_self _) isObject isMember inner registers
      finished fits (fun register isRegister => ?_) ran
    rw [starts register isRegister, same]
  · have may : env.MaySet site.scope property := by
      cases untyped : (property.target.resolve env.bindings).isAny with
      | true => exact ⟨assignable, Or.inr (Or.inl untyped)⟩
      | false => exact may_of_available assignable (inPlace.present rfl untyped isMember)
    exact Becomes.setField inPlace.withstands member may holds updated

theorem setSink_inPlace (sized : pass.claims.length = env.header.length)
    (known : target < pass.nextRegister) (member : property ∈ type.properties)
    (assignable : property.isAssignable = true) (isSink : property.isSink = true)
    (given : Gives (setSink env recurse site target property) pass steps next) :
    Keeps row target (before.Becomes related type site.scope) steps next := by
  refine setSink_stable inPlace.reliable sized known (fun held value holds => ?_) given
  refine Becomes.setField inPlace.withstands member ⟨assignable, Or.inl isSink⟩ holds
    fun inner declared _ isPlain _ => ?_
  rw [isSink] at isPlain
  cases isPlain

theorem setProperties_inPlace (indexed : env.header.WellIndexed)
    (sized : pass.claims.length = env.header.length) (known : target < pass.nextRegister)
    (given : Gives (setProperties env recurse site type target) pass steps next) :
    Keeps row target (before.Becomes related type site.scope) steps next := by
  obtain ⟨plain, middle, sinks, planPlain, planSinks, rfl⟩ := setProperties_gives given
  have plainPlanned := setEach_planned
    (fun sized known given => setProperty_planned indexed inPlace.reliable sized known given)
    sized known planPlain
  have stillSized := plainPlanned.onward.length.trans sized
  have stillKnown := Nat.lt_of_lt_of_le known plainPlanned.onward.registers
  have sinksPlanned := setEach_planned
    (fun sized known given => setSink_planned inPlace.reliable sized known given)
    stillSized stillKnown planSinks
  refine Keeps.append sinksPlanned.onward.registers ?_ ?_
  · refine setEach_keeps
      (fun sized known given => setProperty_planned indexed inPlace.reliable sized known given)
      (fun property isPlain _ _ _ sized known given => ?_) sized known planPlain
    obtain ⟨isProperty, assignable⟩ := List.mem_filter.mp (List.mem_of_mem_filter isPlain)
    exact setProperty_inPlace inPlace indexed sized known isProperty assignable given
  · refine setEach_keeps
      (fun sized known given => setSink_planned inPlace.reliable sized known given)
      (fun property isSinkProperty _ _ _ sized known given => ?_) stillSized stillKnown planSinks
    obtain ⟨isAssignable, isSink⟩ := List.mem_filter.mp isSinkProperty
    obtain ⟨isProperty, assignable⟩ := List.mem_filter.mp isAssignable
    exact setSink_inPlace inPlace sized known isProperty assignable isSink given

end Properties

/-! ## Objects -/

section Objects

variable {program : Program} {register : Register} {declared : ObjectType}

theorem planObject_updates (isObject : site.target = .object declared)
    (given : Gives (planObject env recurse site) pass (some program) next) :
    ((∀ own, env.settings.ofType? declared.name = some own → own.subtypes = []) ∧
        env.settings.updatedType declared =
          concreteOf declared (env.settings.ofType? declared.name) ∧
        Gives (planSingle env recurse site declared (env.settings.ofType? declared.name)) pass
          program next) ∨
      ∃ own, env.settings.updatedType declared = declared ∧
        Gives (planPolymorphic env recurse site declared own) pass program next := by
  unfold planObject at given
  rw [isObject] at given
  dsimp only at given
  obtain ⟨absent, between, found, planned⟩ := gives_bind.mp given
  obtain ⟨-, rfl⟩ := gives_isAbsent.mp found
  unfold Settings.updatedType
  split at planned
  · cases (gives_pure.mp planned).1
  · split at planned
    · rename_i own configured
      rw [configured]
      split at planned
      · rename_i single
        obtain ⟨_, same, planned⟩ := gives_planned.mp planned
        cases same
        refine Or.inl ⟨fun other same => ?_, if_pos single, planned⟩
        cases same
        exact List.isEmpty_iff.mp single
      · rename_i rules
        obtain ⟨_, same, planned⟩ := gives_planned.mp planned
        cases same
        exact Or.inr ⟨own, if_neg rules, planned⟩
    · rename_i unset
      rw [unset]
      obtain ⟨_, same, planned⟩ := gives_planned.mp planned
      cases same
      refine Or.inl ⟨fun other same => ?_, rfl, planned⟩
      cases same

section Existing

variable {output : Value → Prop} (indexed : env.header.WellIndexed)
variable (reliable : Reliable env recurse) (sized : pass.claims.length = env.header.length)
variable (isThere : site.existing = some register) (known : register < pass.nextRegister)
include indexed reliable sized isThere

/-- An object that exists is changed by its properties only, which are planned behind the plan of a
new instance. -/
theorem planSingle_changes {own : Option TypePolicy}
    (brings : ∀ {create : Program} {middle after : Pass} {assigns : List Step},
      Gives (planInstance env recurse site (concreteOf declared own)
        (own.bind TypePolicy.factory)) pass create middle →
      Gives (setProperties env recurse site (concreteOf declared own) middle.nextRegister)
        middle.advanced assigns after →
      Brings row middle.nextRegister (fun present => present = before.toValue) output assigns after)
    (given : Gives (planSingle env recurse site declared own) pass program next) :
    Yields row (some register) (fun present => present = before.toValue) output program next := by
  obtain ⟨create, middle, start, between, created, started, assigned⟩ := planSingle_gives given
  obtain ⟨assigns, set, rfl⟩ := planAssigned_gives assigned
  have creates := planInstance_planned indexed reliable sized created
  rcases reuseOrCreate_gives started with ⟨absent, -, -⟩ | ⟨existing, present, rfl, rfl⟩
  · rw [isThere] at absent
    cases absent
  · cases isThere.symm.trans present
    have stillSized : middle.advanced.claims.length = env.header.length :=
      creates.block.onward.length.trans sized
    have sets := setProperties_planned indexed reliable stillSized (Nat.lt_succ_self _) set
    -- The program of the new instance does not run, so only its claims matter.
    refine Yields.brought sets.onward.registers ?_ (brings created set)
    exact @Yields.reused row middle.advanced middle register _ _ _ .object _ create Yields.keep
      (fun value same => by rw [same]; rfl) (Nat.le_succ _) (Nat.lt_succ_self _)

include known in
theorem planPolymorphic_changes {own : TypePolicy}
    (brings : ∀ {first : Register} {after : Pass} {assigns : List Step}, register < first →
      Gives (setProperties env recurse site declared register) ⟨pass.claims, first⟩ assigns after →
      Brings row register (fun present => present = before.toValue) output assigns after)
    (given : Gives (planPolymorphic env recurse site declared own) pass program next) :
    Yields row (some register) (fun present => present = before.toValue) output program next := by
  obtain ⟨branches, middle, fallback, between, branching, falls, way⟩ := planPolymorphic_gives given
  obtain ⟨upBranches, -⟩ := planBranches_planned indexed reliable sized (Nat.le_refl _)
    branching
  have sizedMiddle : (Pass.mk pass.claims middle.nextRegister).claims.length =
      env.header.length := sized
  have up : middle.nextRegister ≤ between.nextRegister :=
    (planFallback_planned indexed reliable sizedMiddle falls).block.onward.registers
  rcases way with ⟨absent, -⟩ | ⟨existing, update, after, present, assigned, rfl, rfl⟩
  · rw [isThere] at absent
    cases absent
  · cases isThere.symm.trans present
    obtain ⟨assigns, set, rfl⟩ := planAssigned_gives assigned
    have sizedUpdate : (Pass.mk pass.claims between.advanced.nextRegister).claims.length =
        env.header.length := sized
    have knownHere : register < between.advanced.nextRegister :=
      Nat.lt_succ_of_lt (Nat.lt_of_lt_of_le known (Nat.le_trans upBranches up))
    have sets := setProperties_planned indexed reliable sizedUpdate knownHere set
    have changed := Yields.brought sets.onward.registers
      (@Yields.keep row (fun present => present = before.toValue) _ register)
      (brings knownHere set)
    refine Yields.reused changed (fun value same => ?_) (Nat.le_succ _) (Nat.lt_succ_self _)
    rw [same]
    rfl

end Existing

variable {related : ObjectType → Scope → Object → Object → Prop}
variable (inPlace : UpdatesInPlace env row related recurse)
include inPlace

theorem setProperties_brings (indexed : env.header.WellIndexed)
    (sized : pass.claims.length = env.header.length) (known : target < pass.nextRegister)
    (given : Gives (setProperties env recurse site type target) pass steps next) :
    Brings row target (fun present => present = before.toValue)
      (before.Becomes related type site.scope) steps next := by
  refine Brings.narrow (setProperties_inPlace inPlace indexed sized known given) fun value same => ?_
  exact ⟨before, same, inPlace.withstands.refl _ _ _⟩

theorem planSingle_inPlace (indexed : env.header.WellIndexed) {own : Option TypePolicy}
    (sized : pass.claims.length = env.header.length) (isThere : site.existing = some register)
    (given : Gives (planSingle env recurse site declared own) pass program next) :
    Yields row (some register) (fun present => present = before.toValue)
      (before.Becomes related (concreteOf declared own) site.scope) program next := by
  refine planSingle_changes indexed inPlace.reliable sized isThere
    (fun {create middle _ _} created set => ?_) given
  have creates := planInstance_planned indexed inPlace.reliable sized created
  have stillSized : middle.advanced.claims.length = env.header.length :=
    creates.block.onward.length.trans sized
  exact setProperties_brings inPlace indexed stillSized (Nat.lt_succ_self _) set

theorem planPolymorphic_inPlace (indexed : env.header.WellIndexed) {own : TypePolicy}
    (sized : pass.claims.length = env.header.length) (isThere : site.existing = some register)
    (known : register < pass.nextRegister)
    (given : Gives (planPolymorphic env recurse site declared own) pass program next) :
    Yields row (some register) (fun present => present = before.toValue)
      (before.Becomes related declared site.scope) program next := by
  refine planPolymorphic_changes indexed inPlace.reliable sized isThere known
    (fun {first _ _} knownHere set => ?_) given
  have sizedUpdate : (Pass.mk pass.claims first).claims.length = env.header.length := sized
  exact setProperties_brings inPlace indexed sizedUpdate knownHere set

end Objects

theorem standard_updates {related : ObjectType → Scope → Object → Object → Prop}
    (withstands : env.Withstands related) (indexed : env.header.WellIndexed) (row : Row)
    (levels : Nat) : UpdatesInPlace env row related (standard env levels) := by
  induction levels with
  | zero =>
      refine ⟨withstands, standard_reliable indexed 0, standard_present, fun _ _ _ _ given => ?_⟩
      exact absurd given gives_throw
  | succ levels ih =>
      refine ⟨withstands, standard_reliable indexed _, standard_present, ?_⟩
      intro site pass next program register declared sized isThere known isObject given before
      obtain ⟨below, same, planned⟩ := standard_planObject isObject given
      cases same
      rcases planObject_updates isObject planned with ⟨-, isType, single⟩ |
        ⟨own, isType, polymorphic⟩
      · rw [isType]
        exact planSingle_inPlace ih indexed sized isThere single
      · rw [isType]
        exact planPolymorphic_inPlace ih indexed sized isThere known polymorphic

end Planning

/-! ## Mappers -/

theorem Environment.addresses_root {env : Environment} {name : String} :
    env.Addresses .root name ↔ ∃ column ∈ env.header,
      column.folded = foldName name ∨
        Text.startsWith column.folded (foldName name ++ foldName env.settings.separator) =
          true := by
  have exact (column : HeaderColumn) : Scope.root.contains column = true ∧
      Scope.root.nameWithin column = foldName name ↔ column.folded = foldName name := by
    rw [Scope.root_contains, Scope.root_nameWithin]
    exact and_iff_right rfl
  unfold Environment.Addresses
  simp only [exact, Scope.root_member_covers, ← or_assoc, or_self]

theorem Plan.run_yields {env : Environment} {target : Target} {plan : Plan} {row : Row}
    {existing value : Value} {output : Value → Prop} (indexed : env.header.WellIndexed)
    (planned : Plan.ofTarget .standard env target = .ok plan)
    (ran : plan.run row existing = .ok value)
    (yields : ∀ {final : Pass},
      Gives (standard env (deepestLevel + 1) (Site.atRoot env.bindings target))
        ⟨Claims.none env.header, existingRegister + 1⟩ (some plan.program) final →
      Yields row (some existingRegister) (fun present => present = existing) output plan.program
        final) : output value := by
  obtain ⟨final, given, fits⟩ := Plan.ofTarget_gives planned
  have sized : (Claims.none env.header).length = env.header.length :=
    Claims.length_none _
  have known : ∀ register, (Site.atRoot env.bindings target).existing = some register →
      register < existingRegister + 1 :=
    Register.known_existing rfl (Nat.lt_succ_self _)
  have reliable : Reliable env (standard env (deepestLevel + 1)) := standard_reliable indexed _
  have onward := (reliable.plans sized known given).block.onward.registers
  have started : 0 < plan.registerCount :=
    Nat.lt_of_lt_of_le (Nat.lt_of_lt_of_le (Nat.succ_pos _) onward) fits
  unfold Plan.run at ran
  split at ran
  · rename_i finished runs
    cases ran
    refine yields given _ finished ?_ (fun register same => ?_) runs
    · rw [Registers.size_start]
      exact fits
    · cases same
      exact Registers.get_start _ _ started
  · cases ran

/-- Where an object exists, a plan updates it as an instance of its target's type. -/
theorem Plan.update_becomes {env : Environment} {target : Target} {declared : ObjectType}
    {plan : Plan} {row : Row} {before : Object} {value : Value}
    {related : ObjectType → Scope → Object → Object → Prop} (withstands : env.Withstands related)
    (indexed : env.header.WellIndexed) (isObject : target.resolve env.bindings = .object declared)
    (planned : Plan.ofTarget .standard env target = .ok plan)
    (ran : plan.run row before.toValue = .ok value) :
    before.Becomes related (env.settings.updatedType declared) .root value := by
  have sized : (Claims.none env.header).length = env.header.length :=
    Claims.length_none _
  refine Plan.run_yields indexed planned ran fun given => ?_
  exact (standard_updates withstands indexed row (deepestLevel + 1)).updates sized rfl
    (Nat.lt_succ_self existingRegister) isObject given before

theorem Plan.update_kept {env : Environment} {target : Target} {declared : ObjectType} {plan : Plan}
    {row : Row} {before : Object} {value : Value} (indexed : env.header.WellIndexed)
    (isObject : target.resolve env.bindings = .object declared)
    (planned : Plan.ofTarget .standard env target = .ok plan)
    (ran : plan.run row before.toValue = .ok value) :
    env.IsKept (env.settings.updatedType declared) .root before value :=
  Plan.update_becomes (Kept.withstands env) indexed isObject planned ran

/-! ## Tenants

A tenant moves house: the row tells of the new street, but neither of the town nor of the rent. -/

namespace Tenants

def house : ObjectType :=
  ObjectTypeOf.declare 1 "House" false
    [{ name := "Street", target := .scalar .string },
      { name := "Town", target := .scalar .string }] 11 []

def tenant : ObjectType :=
  ObjectTypeOf.declare 2 "Tenant" false
    [{ name := "Name", target := .scalar .string },
      { name := "Home", target := .object house },
      { name := "Note", target := .any }] 12 []

def columns : List Column :=
  [Column.declare "home_street" .string]

def row : Row :=
  ⟨columns, [.string "Ring"]⟩

def alley : Object :=
  ⟨"House", [("Street", .string "Alley"), ("Town", .string "Ulm")]⟩

def ada : Object :=
  ⟨"Tenant",
    [("Home", alley.toValue),
      ("Name", .string "Ada"), ("Note", .string "quiet"), ("Rent", .int .int32 (.zero .int32))]⟩

def mapper? : Except Failure Mapper :=
  Mapper.make .standard [] (.object tenant) (Header.ofColumns columns) {}

def updated? : Except Failure Value :=
  mapper?.bind fun mapper => mapper.update row ada.toValue

def noteIsNull : Bool :=
  match updated? with
  | .ok (.object typeName fields) => (Object.get? ⟨typeName, fields⟩ "Note").any Value.isNull
  | _ => false

def env : Environment :=
  ⟨Header.ofColumns columns, {}, []⟩

theorem home_type {type : ObjectType} (isType : type = tenant) {property : Property}
    (member : property ∈ type.properties) (named : property.name = "Home") :
    property.isSink = false ∧ property.target.resolve [] = .object house := by
  subst isType
  simp only [tenant, ObjectTypeOf.declare, List.mem_cons, List.not_mem_nil, or_false] at member
  rcases member with rfl | rfl | rfl
  · exact absurd named (by decide)
  · exact ⟨rfl, rfl⟩
  · exact absurd named (by decide)

theorem home_only : env.OnlyObjects (fun type => type = tenant) "Home" := by
  intro type isType property member _ named
  obtain ⟨isPlain, isHouse⟩ := home_type isType member named
  exact ⟨isPlain, house, isHouse⟩

theorem town_untouched (type : ObjectType)
    (isType : env.MemberTypes (fun type => type = tenant) "Home" type) :
    ∀ property ∈ type.properties, property.name = "Town" →
      ¬ env.MaySet (Scope.root.member "Home" "_") property := by
  obtain ⟨_, isTenant, property, member, -, named, declared, isDeclared, rfl⟩ := isType
  cases (home_type isTenant member named).2.symm.trans isDeclared
  have apart : ¬ env.Addresses (Scope.root.member "Home" "_") "Town" := by decide +kernel
  have plain : ∀ property ∈ house.properties, property.isSink = false ∧
      (property.target.resolve []).isAny = false := by decide
  rintro inner isInner isTown ⟨-, may⟩
  obtain ⟨noSink, notAny⟩ := plain inner isInner
  rcases may with isSink | isAny | addressed
  · exact absurd isSink (Bool.eq_false_iff.mp noSink)
  · exact absurd isAny (Bool.eq_false_iff.mp notAny)
  · rw [isTown] at addressed
    exact apart addressed

theorem updated : ∃ mapper value, mapper? = .ok mapper ∧ mapper.update row ada.toValue = .ok value ∧
    updated? = .ok value := by
  have succeeds : updated?.isOk = true := by decide +kernel
  obtain ⟨value, done⟩ := Except.of_isOk succeeds
  obtain ⟨mapper, made, ran⟩ := Except.bind_eq_ok done
  exact ⟨mapper, value, made, ran, done⟩

end Tenants

/-- An update keeps the type name and every field that no column addresses, except for untyped
properties and sinks, and this holds as well within all instances that it updates. -/
theorem Mapper.update_keeps {bindings : Bindings} {target : Target} {declared : ObjectType}
    {columns : List Column} {settings : Settings} {mapper : Mapper} {row : Row} {before : Object}
    {value : Value} (isObject : target.resolve bindings = .object declared)
    (made : Mapper.make .standard bindings target (Header.ofColumns columns) settings =
      .ok mapper)
    (updated : mapper.update row before.toValue = .ok value) :
    ∃ after : Object, value = after.toValue ∧ after.typeName = before.typeName ∧
      (∀ name,
        (∀ property ∈ (settings.updatedType declared).properties, property.name = name →
          property.isAssignable = true → property.isSink = false ∧
            (property.target.resolve bindings).isAny = false ∧
            ∀ column ∈ Header.ofColumns columns, column.folded ≠ foldName name ∧
              Text.startsWith column.folded (foldName name ++ foldName settings.separator) =
                false) →
        after.get? name = before.get? name) ∧
      Kept ⟨Header.ofColumns columns, settings, bindings⟩
        (fun type => type = settings.updatedType declared) .root before after := by
  let env : Environment := ⟨Header.ofColumns columns, settings, bindings⟩
  obtain ⟨plan, planned, rfl⟩ := Except.map_eq_ok made
  have indexed : env.header.WellIndexed := Header.ofColumns_wellIndexed columns
  obtain ⟨after, rfl, kept⟩ := Plan.update_kept indexed isObject planned updated
  refine ⟨after, rfl, kept.typeName, fun name untouched => kept.frame ?_, kept⟩
  rintro _ rfl property member named ⟨assignable, isSink | isAny | addressed⟩
  · rw [(untouched property member named assignable).1] at isSink
    cases isSink
  · rw [(untouched property member named assignable).2.1] at isAny
    cases isAny
  · obtain ⟨column, isColumn, way⟩ := Environment.addresses_root.mp addressed
    have apart := (untouched property member named assignable).2.2 column isColumn
    rw [named] at way
    rcases way with same | starts
    · exact apart.1 same
    · rw [apart.2] at starts
      cases starts

/-- The town is kept within the house that the tenant lives in. -/
theorem Tenants.town_kept : ∃ mapper after home, Tenants.mapper? = .ok mapper ∧
    mapper.update Tenants.row Tenants.ada.toValue = .ok (Object.toValue after) ∧
    after.typeName = "Tenant" ∧
    after.get? "Name" = some (.string "Ada") ∧
    after.get? "Home" = some (Object.toValue home) ∧
    home.get? "Town" = some (.string "Ulm") := by
  obtain ⟨mapper, value, made, ran, -⟩ := Tenants.updated
  have isObject : (Target.object Tenants.tenant).resolve [] = .object Tenants.tenant := rfl
  obtain ⟨after, rfl, typeName, frame, kept⟩ := Mapper.update_keeps isObject made ran
  have isHouse : Tenants.ada.get? "Home" = some (Object.toValue Tenants.alley) := rfl
  obtain ⟨home, isHome, keptHome⟩ := kept.within isHouse Tenants.home_only
  exact ⟨mapper, after, home, made, ran, typeName, frame "Name" (by decide +kernel), isHome,
    keptHome.frame Tenants.town_untouched⟩

/-- The note is gone although no column tells of it: an untyped member without columns is null. -/
theorem Tenants.note_lost : ∃ mapper after, Tenants.mapper? = .ok mapper ∧
    mapper.update Tenants.row Tenants.ada.toValue = .ok (Object.toValue after) ∧
    (∀ property ∈ Tenants.tenant.properties, property.name = "Note" → property.isSink = false ∧
      ∀ column ∈ Header.ofColumns Tenants.columns, column.folded ≠ foldName "Note" ∧
        Text.startsWith column.folded (foldName "Note" ++ foldName "_") = false) ∧
    after.get? "Note" ≠ Tenants.ada.get? "Note" := by
  obtain ⟨mapper, value, made, ran, whole⟩ := Tenants.updated
  have gone : Tenants.noteIsNull = true := by decide +kernel
  unfold Tenants.noteIsNull at gone
  rw [whole] at gone
  cases value with
  | object typeName fields =>
      refine ⟨mapper, ⟨typeName, fields⟩, made, ran, by decide +kernel, fun same => ?_⟩
      have gone : (Object.get? ⟨typeName, fields⟩ "Note").any Value.isNull = true := gone
      rw [same] at gone
      cases gone
  | _ => cases gone

end Unflatten
