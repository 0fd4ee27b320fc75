import Unflatten.Proofs.Conformance.Members

/-!
# Objects conform

Constructor arguments fit their parameters, so a constructor makes an instance, and every property
that is set afterwards keeps it one. This holds too where the instance is one of another type that
stands for the declared one, as long as the two agree on the properties that they share.
-/

set_option autoImplicit false

namespace Unflatten

/-- The value is an instance of one of the types. -/
def Environment.IsInstanceOf (env : Environment) (types : ObjectType → Prop) (value : Value) :
    Prop :=
  ∃ type object, types type ∧ value = object.toValue ∧
    IsInstance env.settings env.bindings type object

/-- Properties of one name have one target. -/
def Agree (type other : ObjectType) : Prop :=
  ∀ property ∈ type.properties, ∀ shared ∈ other.properties,
    Text.equalIgnoringCase shared.name property.name = true → shared.target = property.target

namespace Agree

variable {settings : Settings} {declared type : ObjectType}

theorem refl (orderly : type.Orderly settings) : Agree type type := by
  intro property isProperty shared isShared same
  exact orderly.same_target isShared isProperty same

theorem ofStandIn (orderly : declared.Orderly settings)
    (stands : StandsFor settings declared type) :
    Agree declared type := by
  intro property isProperty shared isShared same
  rcases stands with rfl | replaces
  · exact orderly.same_target isShared isProperty same
  · exact orderly.standIns type replaces shared isShared property isProperty same

theorem symm {other : ObjectType} (agree : Agree type other) : Agree other type := by
  intro property isProperty shared isShared same
  exact (agree shared isShared property isProperty (Text.equalIgnoringCase_symm same)).symm

end Agree

/-! ## The choice of a constructor -/

theorem View.best?_mem {view : View} {settings : Settings} {constructors : List Constructor}
    {points : Nat} {constructor : Constructor}
    (best : view.best? settings constructors = some (points, constructor)) :
    constructor ∈ constructors := by
  induction constructors generalizing points with
  | nil => cases best
  | cons first rest ih =>
      rw [View.best?] at best
      generalize (if first.isPublic && !first.isStatic then view.score? settings first
        else none) = score at best
      split at best
      · exact List.mem_cons_of_mem _ (ih best)
      · cases best
        exact List.mem_cons_self
      · rename_i more other later
        split at best
        · cases best
          exact List.mem_cons_of_mem _ (ih later)
        · cases best
          exact List.mem_cons_self

theorem ObjectTypeOf.chooseConstructor_usable {settings : Settings} {type : ObjectType}
    {view : View} {constructor : Constructor}
    (chosen : type.chooseConstructor (settings.ofType? type.name) view settings =
      .ok constructor) : UsableConstructor settings type constructor := by
  unfold ObjectTypeOf.chooseConstructor at chosen
  split at chosen
  · rename_i preferred found
    obtain ⟨own, configured, isPreferred⟩ := Option.bind_eq_some_iff.mp found
    split at chosen
    · cases chosen
    · cases chosen
      exact Or.inr ⟨own, configured, isPreferred⟩
  · split at chosen
    · cases chosen
    · split at chosen
      · rename_i points best found
        cases chosen
        exact Or.inl (View.best?_mem found)
      · cases chosen

namespace Planning

variable {env : Environment} {root : Target} {row : Row} {recurse : Planner} {site : Site}
variable {pass next : Pass} {program : Program} {input : Value → Prop}

/-! ## Constructor arguments -/

theorem planArguments_collects {holds : Pass → List Parameter → List Value → Pass → Prop}
    {output : Parameter → Pass → Program → Pass → Value → Prop} {parameters : List Parameter}
    {arguments : List Program} (indexed : env.header.WellIndexed) (reliable : Reliable env recurse)
    (nil : ∀ pass, holds pass [] [] pass)
    (cons : ∀ {parameter : Parameter} {rest : List Parameter} {pass middle next : Pass}
      {program : Program} {value : Value} {values : List Value},
      Gives (planArgument env recurse site parameter) pass program middle →
      output parameter pass program middle value → holds middle rest values next →
        holds pass (parameter :: rest) (value :: values) next)
    (yields : ∀ {parameter : Parameter} {pass next : Pass} {program : Program},
      pass.claims.length = env.header.length →
      Gives (planArgument env recurse site parameter) pass program next →
        Yields row none (fun _ => True) (output parameter pass program next) program next)
    (sized : pass.claims.length = env.header.length)
    (given : Gives (planArguments env recurse site parameters) pass arguments next) :
    ∃ outputs, Produces row pass arguments outputs next ∧
      ∀ values, List.Forall₂ (fun output value => output value) outputs values →
        holds pass parameters values next := by
  induction parameters generalizing pass arguments with
  | nil =>
      obtain ⟨rfl, rfl⟩ := gives_pure.mp given
      refine ⟨[], Produces.nil rfl (Nat.le_refl _), fun values same => ?_⟩
      cases same
      exact nil next
  | cons parameter rest ih =>
      obtain ⟨first, middle, others, argument, later, rfl⟩ := planArguments_cons given
      have planned := planArgument_planned indexed reliable sized argument
      obtain ⟨outputs, produces, each⟩ := ih (planned.block.onward.length.trans sized) later
      refine ⟨_ :: outputs, Produces.cons planned (yields sized argument) produces,
        fun values same => ?_⟩
      cases same with
      | cons here others => exact cons argument here (each _ others)

section Arguments

variable (sound : Sound env root row recurse)
include sound

theorem planSink_yields {target : Target} (sized : pass.claims.length = env.header.length)
    (within : env.Within root target)
    (given : Gives (planSink env recurse site target) pass (some program) next) :
    Yields row none input (env.Conforms target) program next := by
  rcases planSink_gives given with ⟨impossible, -⟩ | given
  · cases impossible
  · exact sound.new sized within rfl rfl given

theorem planNamedArgument_yields {parameter : Parameter}
    (sized : pass.claims.length = env.header.length) (within : env.Within root parameter.target)
    (given : Gives (planNamedArgument env recurse site parameter) pass (some program) next) :
    Yields row none input (env.Conforms parameter.target) program next := by
  rcases planNamedArgument_gives given with ⟨impossible, -⟩ |
    ⟨leaf, column, planned, same, isLeaf, found, reads⟩ | ⟨-, member⟩
  · cases impossible
  · cases same
    have isColumn := (List.mem_filter.mp (List.mem_of_find?_eq_some found)).1
    exact (read_yields sound isColumn reads).mono fun value admits => Conforms.leaf isLeaf admits
  · exact sound.new sized within rfl rfl member

theorem planArgument_yields {parameter : Parameter}
    (sized : pass.claims.length = env.header.length) (within : env.Within root parameter.target)
    (given : Gives (planArgument env recurse site parameter) pass program next) :
    Yields row none input (env.Fits parameter.target) program next := by
  rcases planArgument_gives given with named | ⟨middle, declined, way⟩
  · exact (planNamedArgument_yields sound sized within named).mono fun value conforms =>
      Fits.conforms conforms
  · obtain rfl := planNamedArgument_declines sound.reliable declined
    have defaults {between : Pass}
        (default : Gives (constant parameter.target.defaultValue) between program next) :
        Yields row none input (env.Fits parameter.target) program next := by
      obtain ⟨rfl, rfl⟩ := gives_constant.mp default
      exact Yields.constant Fits.default
    rcases way with ⟨-, sink⟩ | ⟨between, -, default⟩
    · exact (planSink_yields sound sized within sink).mono fun value conforms =>
        Fits.conforms conforms
    · exact defaults default

theorem planArguments_produces {parameters : List Parameter} {arguments : List Program}
    (sized : pass.claims.length = env.header.length)
    (within : ∀ parameter ∈ parameters, env.Within root parameter.target)
    (given : Gives (planArguments env recurse site parameters) pass arguments next) :
    Produces row pass arguments (parameters.map fun parameter => env.Fits parameter.target)
      next := by
  induction parameters generalizing pass arguments with
  | nil =>
      obtain ⟨rfl, rfl⟩ := gives_pure.mp given
      exact Produces.nil rfl (Nat.le_refl _)
  | cons parameter rest ih =>
      obtain ⟨first, middle, others, argument, later, rfl⟩ := planArguments_cons given
      have planned := planArgument_planned sound.indexed sound.reliable sized argument
      have yields : Yields row none (fun _ => True) (env.Fits parameter.target) first middle :=
        planArgument_yields sound sized (within parameter (by simp)) argument
      exact Produces.cons planned yields (ih (planned.block.onward.length.trans sized)
        (fun other member => within other (by simp [member])) later)

theorem planInstance_yields {type : ObjectType} (sized : pass.claims.length = env.header.length)
    (within : env.Within root (.object type))
    (given : Gives (planInstance env recurse site type none) pass program next) :
    Yields row none input (env.IsInstanceOf (· = type)) program next := by
  rcases planInstance_gives given with ⟨maker, hasMaker, -⟩ |
    ⟨-, constructor, arguments, middle, chosen, planned, rfl, rfl⟩
  · rw [factoryFor, Option.none_or] at hasMaker
    obtain ⟨own, configured, isMaker⟩ := Option.bind_eq_some_iff.mp hasMaker
    rw [(sound.orderly.factories type.name own configured).1] at isMaker
    cases isMaker
  · have usable := ObjectTypeOf.chooseConstructor_usable chosen
    have produces := planArguments_produces sound sized
      (fun parameter member => Within.parameter within usable member) planned
    refine Produces.gathered (fun values => (constructor.construct type values).toValue) produces
      (fun registers => by rw [runStep]) fun values holds => ?_
    rw [List.forall₂_map_left_iff] at holds
    have isInstance := construct_isInstance (sound.orderly.objects type within) usable
      fun entry member => List.forall₂_zip holds member
    exact ⟨type, _, rfl, rfl, isInstance⟩

end Arguments

/-! ## Properties -/

theorem Fits.reusable {target : Target} {value : Value}
    (plain : (target.leaf?.filter fun leaf => !leaf.isAny) = none) (fits : env.Fits target value) :
    env.Reusable (target.resolve env.bindings) value := by
  cases fits with
  | conforms conforms => exact Or.inr conforms.resolved
  | default =>
      refine Or.inl ?_
      rw [Target.defaultValue]
      cases isLeaf : target.leaf? with
      | none => rfl
      | some leaf =>
          have isAny : leaf.isAny = true := by simpa [isLeaf] using plain
          unfold Leaf.isAny at isAny
          unfold Leaf.defaultValue
          split at isAny
          · rename_i kind
            simp [kind]
          · cases isAny

section Properties

variable (sound : Sound env root row recurse) {types : ObjectType → Prop} {concrete : ObjectType}
variable (agree : ∀ type, types type → Agree concrete type)
variable {target : Register} {property : Property} {steps : List Step}

include agree in
theorem IsInstanceOf.setField {held value : Value} (member : property ∈ concrete.properties)
    (holds : env.IsInstanceOf types held) (fits : env.Fits property.target value) :
    env.IsInstanceOf types (held.setField property.name value) := by
  obtain ⟨type, object, isType, rfl, isInstance⟩ := holds
  refine ⟨type, object.set property.name value, isType, rfl,
    isInstance.set fun shared isShared named => ?_⟩
  rw [agree type isType property member shared isShared (Text.equalIgnoringCase_symm named)]
  exact fits

include sound agree

theorem setProperty_keeps (sized : pass.claims.length = env.header.length)
    (within : env.Within root (.object concrete)) (member : property ∈ concrete.properties)
    (known : target < pass.nextRegister)
    (given : Gives (setProperty env recurse site target property) pass steps next) :
    Keeps row target (env.IsInstanceOf types) steps next := by
  rcases setProperty_gives given with ⟨leaf, isLeaf, way⟩ | ⟨plain, found, isMember, rfl⟩
  · rcases way with ⟨rfl, rfl⟩ | ⟨column, value, reads, found, rfl⟩
    · exact Keeps.nil
    · have planned := (read_planned (Header.find?_unclaimed sound.indexed sized found) reads).1
      have isColumn := (List.mem_filter.mp (List.mem_of_find?_eq_some found)).1
      have yields : Yields row none (fun _ => True) leaf.Admits value next :=
        read_yields sound isColumn reads
      have targetLeaf := (Option.filter_eq_some_iff.mp isLeaf).1
      refine Keeps.added (fun held => held.setField property.name) planned yields known
        (fun registers => by rw [runStep]) fun held value holds admits => ?_
      exact IsInstanceOf.setField agree member holds
        (Fits.conforms (Conforms.leaf targetLeaf admits))
  · cases found with
    | none => exact Keeps.nil
    | some value =>
        have existing : ∀ register,
            (site.member env property.name property.target (some pass.nextRegister)).existing =
              some register → register < pass.advanced.nextRegister :=
          Register.known_existing rfl (Nat.lt_succ_self _)
        have sized : pass.advanced.claims.length = env.header.length := sized
        have planned := sound.reliable.plans sized existing isMember
        have inside : env.Within root (property.target.resolve env.bindings) :=
          (Within.property within member).resolved
        have yields := sound.yields sized existing inside isMember
        intro registers finished fits holds ran
        rw [runSteps, runStep] at ran
        simp only [] at ran
        have apart : target ≠ pass.nextRegister := Nat.ne_of_lt known
        have older := planned.block.onward.registers
        have fitsProjected : next.nextRegister ≤
            (registers.write pass.nextRegister
              ((registers.get target).field property.name)).size := by
          rw [Registers.size_write]
          exact fits
        obtain ⟨between, ranMember, same⟩ := planned.added_get
          (fun held => held.setField property.name) (Nat.lt_succ_of_lt known)
          (by simpa [Site.member] using apart) (fun registers => by rw [runStep]) fitsProjected ran
        rw [same, Registers.get_write_other apart]
        obtain ⟨type, object, isType, isObject, isInstance⟩ := holds
        rw [isObject]
        refine ⟨type, object.set property.name _, isType, rfl,
          isInstance.set fun shared isShared named => ?_⟩
        have sameTarget := agree type isType property member shared isShared
          (Text.equalIgnoringCase_symm named)
        rw [sameTarget]
        refine Fits.conforms (Conforms.ofResolved ?_)
        refine yields _ between fitsProjected (fun register isRegister => ?_) ranMember
        cases isRegister
        have inFile : pass.nextRegister < registers.size := by
          have advanced : pass.advanced.nextRegister = pass.nextRegister + 1 := rfl
          lia
        rw [Registers.get_write_same inFile, isObject]
        refine Fits.reusable plain ?_
        rw [← sameTarget]
        exact isInstance.field isShared named

theorem setSink_keeps (sized : pass.claims.length = env.header.length)
    (within : env.Within root (.object concrete)) (member : property ∈ concrete.properties)
    (known : target < pass.nextRegister)
    (given : Gives (setSink env recurse site target property) pass steps next) :
    Keeps row target (env.IsInstanceOf types) steps next := by
  obtain ⟨found, sink, rfl⟩ := setSink_gives given
  cases found with
  | none => exact Keeps.nil
  | some value =>
      have planned := planSink_planned sound.reliable sized sink
      have yields : Yields row none (fun _ => True) (env.Conforms property.target) value next :=
        planSink_yields sound sized (Within.property within member) sink
      exact Keeps.added (fun held => held.setField property.name) planned yields known
        (fun registers => by rw [runStep]) fun held value holds conforms =>
          IsInstanceOf.setField agree member holds (Fits.conforms conforms)

omit sound agree in
theorem setEach_keeps {assign : Property → Planning (List Step)} {properties : List Property}
    {invariant : Value → Prop}
    (planned : ∀ {property : Property} {pass next : Pass} {steps : List Step},
      pass.claims.length = env.header.length → target < pass.nextRegister →
      Gives (assign property) pass steps next → Block [target] [target] pass steps next)
    (keeps : ∀ property ∈ properties, ∀ {pass next : Pass} {steps : List Step},
      pass.claims.length = env.header.length → target < pass.nextRegister →
      Gives (assign property) pass steps next → Keeps row target invariant steps next)
    (sized : pass.claims.length = env.header.length) (known : target < pass.nextRegister)
    (given : Gives (setEach assign properties) pass steps next) :
    Keeps row target invariant steps next := by
  induction properties generalizing pass steps with
  | nil =>
      obtain ⟨rfl, rfl⟩ := gives_pure.mp given
      exact Keeps.nil
  | cons property rest ih =>
      obtain ⟨first, middle, others, assigned, later, rfl⟩ := setEach_cons given
      have onward := (planned sized known assigned).onward
      have stillSized := onward.length.trans sized
      have stillKnown := Nat.lt_of_lt_of_le known onward.registers
      have onwardRest := (setEach_planned planned stillSized stillKnown later).onward
      refine Keeps.append onwardRest.registers (keeps property (by simp) sized known assigned) ?_
      exact ih (fun other member => keeps other (by simp [member])) stillSized stillKnown later

theorem setProperties_keeps (sized : pass.claims.length = env.header.length)
    (within : env.Within root (.object concrete)) (known : target < pass.nextRegister)
    (given : Gives (setProperties env recurse site concrete target) pass steps next) :
    Keeps row target (env.IsInstanceOf types) steps next := by
  obtain ⟨plain, middle, sinks, planPlain, planSinks, rfl⟩ := setProperties_gives given
  have plainPlanned := setEach_planned
    (fun sized known given => setProperty_planned sound.indexed sound.reliable sized known given)
    sized known planPlain
  have stillSized := plainPlanned.onward.length.trans sized
  have stillKnown := Nat.lt_of_lt_of_le known plainPlanned.onward.registers
  have sinksPlanned := setEach_planned
    (fun sized known given => setSink_planned sound.reliable sized known given)
    stillSized stillKnown planSinks
  refine Keeps.append sinksPlanned.onward.registers ?_ ?_
  · refine setEach_keeps
      (fun sized known given => setProperty_planned sound.indexed sound.reliable sized known given)
      (fun property member _ _ _ sized known given => ?_) sized known planPlain
    have isProperty := List.mem_of_mem_filter (List.mem_of_mem_filter member)
    exact setProperty_keeps sound agree sized within isProperty known given
  · refine setEach_keeps
      (fun sized known given => setSink_planned sound.reliable sized known given)
      (fun property member _ _ _ sized known given => ?_) stillSized stillKnown planSinks
    have isProperty := List.mem_of_mem_filter (List.mem_of_mem_filter member)
    exact setSink_keeps sound agree sized within isProperty known given

theorem planAssigned_yields {existing : Option Register} {start : Program} {middle : Pass}
    (sized : middle.claims.length = env.header.length)
    (within : env.Within root (.object concrete)) (planned : Planned existing pass start middle)
    (starts : Yields row existing input (env.IsInstanceOf types) start middle)
    (given : Gives (planAssigned env recurse site concrete start) middle program next) :
    Yields row existing input (env.IsInstanceOf types) program next := by
  obtain ⟨assigns, assigned, rfl⟩ := planAssigned_gives given
  have onward := (setProperties_planned sound.indexed sound.reliable sized planned.below
    assigned).onward
  exact Yields.filled onward.registers starts
    (setProperties_keeps sound agree sized within planned.below assigned)

end Properties

/-! ## Instances -/

section Instances

variable (sound : Sound env root row recurse)
include sound

theorem planConcrete_yields {type : ObjectType} (sized : pass.claims.length = env.header.length)
    (within : env.Within root (.object type))
    (given : Gives (planConcrete env recurse site type none) pass program next) :
    Yields row none input (env.IsInstanceOf (· = type)) program next := by
  obtain ⟨start, middle, created, assigned⟩ := planConcrete_gives given
  have planned := planInstance_planned sound.indexed sound.reliable sized created
  have agree : ∀ other, other = type → Agree type other := by
    rintro other rfl
    exact Agree.refl (sound.orderly.objects other within)
  exact planAssigned_yields sound agree (planned.block.onward.length.trans sized) within planned
    (planInstance_yields sound sized within created) assigned

omit sound in
theorem concreteOf_standsFor (settings : Settings) (declared : ObjectType) :
    StandsFor settings declared (concreteOf declared (settings.ofType? declared.name)) := by
  unfold concreteOf
  split
  · rename_i default found
    obtain ⟨own, configured, isDefault⟩ := Option.bind_eq_some_iff.mp found
    split
    · exact Or.inr ⟨own, configured, Or.inl isDefault⟩
    · exact Or.inl rfl
  · exact Or.inl rfl

omit sound in
/-- Without subtype rules only the type itself and its default stand for it, so all types that stand
for it agree. -/
theorem StandsFor.agree {settings : Settings} {declared type other : ObjectType}
    (orderly : ∀ type, StandsFor settings declared type → type.Orderly settings)
    (alone : ∀ own, settings.ofType? declared.name = some own → own.subtypes = [])
    (stands : StandsFor settings declared type) (alsoStands : StandsFor settings declared other) :
    Agree type other := by
  have single {type : ObjectType} (stands : StandsFor settings declared type) :
      type = declared ∨
        ∃ own, settings.ofType? declared.name = some own ∧ own.default = some type := by
    rcases stands with rfl | ⟨own, configured, isDefault | ⟨rule, member, -⟩⟩
    · exact Or.inl rfl
    · exact Or.inr ⟨own, configured, isDefault⟩
    · rw [alone own configured] at member
      cases member
  have isOrderly := orderly declared (Or.inl rfl)
  rcases single stands with rfl | ⟨own, configured, isDefault⟩
  · exact Agree.ofStandIn isOrderly alsoStands
  · rcases single alsoStands with rfl | ⟨same, sameConfigured, sameDefault⟩
    · exact (Agree.ofStandIn isOrderly stands).symm
    · cases configured.symm.trans sameConfigured
      cases isDefault.symm.trans sameDefault
      exact Agree.refl (orderly type stands)

omit sound in
theorem reusable_isInstanceOf {declared : ObjectType} {value : Value}
    (reusable : env.Reusable (.object declared) value)
    (accepts : Expectation.object.accepts value = true) :
    env.IsInstanceOf (StandsFor env.settings declared) value := by
  rcases reusable with rfl | conforms
  · cases accepts
  · exact conforms.isInstance

theorem planSingle_yields {declared : ObjectType} (sized : pass.claims.length = env.header.length)
    (known : ∀ register, site.existing = some register → register < pass.nextRegister)
    (within : env.Within root (.object declared))
    (alone : ∀ own, env.settings.ofType? declared.name = some own → own.subtypes = [])
    (given : Gives (planSingle env recurse site declared (env.settings.ofType? declared.name)) pass
      program next) :
    Yields row site.existing (env.Reusable (.object declared))
      (env.IsInstanceOf (StandsFor env.settings declared)) program next := by
  obtain ⟨create, middle, start, between, created, started, assigned⟩ := planSingle_gives given
  have noFactory : (env.settings.ofType? declared.name).bind TypePolicy.factory = none := by
    cases configured : env.settings.ofType? declared.name with
    | none => rfl
    | some own => exact (sound.orderly.factories declared.name own configured).1
  rw [noFactory] at created
  have stands := concreteOf_standsFor env.settings declared
  have inside := Within.standIn within stands
  have creates := planInstance_planned sound.indexed sound.reliable sized created
  have starts := reuseOrCreate_planned known creates started
  have agree : ∀ type, StandsFor env.settings declared type →
      Agree (concreteOf declared (env.settings.ofType? declared.name)) type := by
    intro type alsoStands
    refine StandsFor.agree (fun other isOther => ?_) alone stands alsoStands
    exact sound.orderly.objects other (Within.standIn within isOther)
  have isNew : Yields row none (env.Reusable (.object declared))
      (env.IsInstanceOf (StandsFor env.settings declared)) create middle := by
    refine (planInstance_yields sound sized inside created).mono ?_
    rintro value ⟨type, object, rfl, isObject, isInstance⟩
    exact ⟨_, object, stands, isObject, isInstance⟩
  have accepted : ∀ value, Expectation.object.accepts value = true →
      env.Reusable (.object declared) value →
        env.IsInstanceOf (StandsFor env.settings declared) value :=
    fun value accepts reusable => reusable_isInstanceOf reusable accepts
  exact planAssigned_yields sound agree (starts.block.onward.length.trans sized) inside starts
    (reuseOrCreate_yields isNew accepted started) assigned

/-! ## Subtypes -/

omit sound in
theorem runBranches_some {registers finished : Registers} {branches : List Branch}
    {into : Register} (ran : runBranches row registers branches into = some (.ok finished)) :
    ∃ branch ∈ branches, runInto row registers branch.program into = .ok finished := by
  induction branches with
  | nil =>
      rw [runBranches] at ran
      cases ran
  | cons branch rest ih =>
      obtain ⟨accepts, label, program⟩ := branch
      rw [runBranches] at ran
      split at ran
      · exact ⟨⟨accepts, label, program⟩, by simp, by simpa using ran⟩
      · obtain ⟨other, member, ranOther⟩ := ih ran
        exact ⟨other, by simp [member], ranOther⟩

omit sound in
theorem planBranches_output {start : Claims} {rules : List SubtypeCase}
    {branches : List (Branch × Claims)} {output : Value → Prop} (indexed : env.header.WellIndexed)
    (reliable : Reliable env recurse) (sized : start.length = env.header.length)
    (concrete : ∀ rule ∈ rules, ∀ {pass next : Pass} {program : Program},
      pass.claims.length = env.header.length →
      Gives (planConcrete env recurse site rule.target.objectType rule.target.factory?) pass
        program next → Yields row none (fun _ => True) output program next)
    (given : Gives (planBranches env recurse site start rules) pass branches next) :
    pass.nextRegister ≤ next.nextRegister ∧
      ∀ branch ∈ branches, ∃ after : Pass, after.nextRegister ≤ next.nextRegister ∧
        Yields row none (fun _ => True) output branch.1.program after := by
  induction rules generalizing pass branches with
  | nil =>
      obtain ⟨rfl, rfl⟩ := gives_pure.mp given
      exact ⟨Nat.le_refl _, by simp⟩
  | cons rule rest ih =>
      obtain ⟨program, middle, others, first, later, rfl⟩ := planBranches_cons given
      have sizedHere : (Pass.mk start pass.nextRegister).claims.length = env.header.length := sized
      have planned := planConcrete_planned indexed reliable sizedHere first
      have up : pass.nextRegister ≤ middle.nextRegister := planned.block.onward.registers
      obtain ⟨upRest, each⟩ := ih (fun other member => concrete other (by simp [member])) later
      refine ⟨Nat.le_trans up upRest, fun branch member => ?_⟩
      rcases List.mem_cons.mp member with rfl | member
      · exact ⟨middle, upRest, concrete rule (by simp) sizedHere first⟩
      · exact each branch member

omit sound in
theorem planFallback_output {declared : ObjectType} {own : TypePolicy} {output : Value → Prop}
    (concrete : ∀ type, type = declared ∨ own.default = some type →
      Gives (planConcrete env recurse site type none) pass program next →
        Yields row none input output program next)
    (given : Gives (planFallback env recurse site declared own) pass program next) :
    Yields row none input output program next := by
  rcases planFallback_gives given with ⟨default, isDefault, planned⟩ | ⟨-, -, rfl, rfl⟩ |
    ⟨-, -, planned⟩
  · exact concrete default (Or.inr isDefault) planned
  · intro registers finished _ _ ran
    have ran : runSteps row registers [.fail (.noSubtype declared.name)] = .ok finished := ran
    rw [runSteps_single, runStep] at ran
    cases ran
  · exact concrete declared (Or.inl rfl) planned

theorem planBranches_yields {declared : ObjectType} {start : Claims} {rules : List SubtypeCase}
    {branches : List (Branch × Claims)} (sized : start.length = env.header.length)
    (stands : ∀ rule ∈ rules, rule.target.factory? = none ∧
      StandsFor env.settings declared rule.target.objectType)
    (within : env.Within root (.object declared))
    (given : Gives (planBranches env recurse site start rules) pass branches next) :
    pass.nextRegister ≤ next.nextRegister ∧
      ∀ branch ∈ branches, ∃ after : Pass, after.nextRegister ≤ next.nextRegister ∧
        Yields row none (fun _ => True) (env.IsInstanceOf (StandsFor env.settings declared))
          branch.1.program after := by
  refine planBranches_output sound.indexed sound.reliable sized
    (fun rule member {_ _ _} sizedHere concrete => ?_) given
  obtain ⟨noFactory, isStandIn⟩ := stands rule member
  rw [noFactory] at concrete
  refine (planConcrete_yields sound sizedHere (Within.standIn within isStandIn) concrete).mono ?_
  rintro value ⟨type, object, rfl, isObject, isInstance⟩
  exact ⟨_, object, isStandIn, isObject, isInstance⟩

theorem planFallback_yields {declared : ObjectType} {own : TypePolicy}
    (sized : pass.claims.length = env.header.length) (within : env.Within root (.object declared))
    (configured : env.settings.ofType? declared.name = some own)
    (given : Gives (planFallback env recurse site declared own) pass program next) :
    Yields row none input (env.IsInstanceOf (StandsFor env.settings declared)) program next := by
  refine planFallback_output (fun type isType planned => ?_) given
  have stands : StandsFor env.settings declared type :=
    isType.imp_right fun isDefault => ⟨own, configured, Or.inl isDefault⟩
  refine (planConcrete_yields sound sized (Within.standIn within stands) planned).mono ?_
  rintro value ⟨other, object, rfl, isObject, isInstance⟩
  exact ⟨_, object, stands, isObject, isInstance⟩

omit sound in
theorem selection_yields {branches : List (Branch × Claims)} {fallback : Program}
    {output : Value → Prop} {limit : Register} {after : Pass}
    (each : ∀ branch ∈ branches, ∃ after : Pass, after.nextRegister ≤ limit ∧
      Yields row none (fun _ => True) output branch.1.program after)
    (behind : limit ≤ after.nextRegister)
    (falls : Yields row none input output fallback after)
    (ends : next.nextRegister = after.nextRegister + 1) :
    Yields row none input output (selection branches fallback after.nextRegister) next := by
  intro registers finished fits _ ran
  have ran : runSteps row registers
      [.select (branches.map Prod.fst) fallback after.nextRegister] = .ok finished := ran
  rw [runSteps_single, runStep] at ran
  have inside : after.nextRegister < registers.size := by lia
  split at ran
  · rename_i outcome chosen
    subst ran
    obtain ⟨branch, member, ranBranch⟩ := runBranches_some chosen
    obtain ⟨pair, isBranch, rfl⟩ := List.mem_map.mp member
    obtain ⟨last, before, yields⟩ := each pair isBranch
    exact Yields.into yields (by lia) inside (by simp) ranBranch
  · exact Yields.into falls (Nat.le_of_lt inside) inside (by simp) ran

theorem planPolymorphic_yields {declared : ObjectType} {own : TypePolicy}
    (sized : pass.claims.length = env.header.length)
    (known : ∀ register, site.existing = some register → register < pass.nextRegister)
    (within : env.Within root (.object declared))
    (configured : env.settings.ofType? declared.name = some own)
    (given : Gives (planPolymorphic env recurse site declared own) pass program next) :
    Yields row site.existing (env.Reusable (.object declared))
      (env.IsInstanceOf (StandsFor env.settings declared)) program next := by
  obtain ⟨branches, middle, fallback, between, branchesPlanned, fallbackPlanned, way⟩ :=
    planPolymorphic_gives given
  have stands : ∀ rule ∈ own.subtypes, rule.target.factory? = none ∧
      StandsFor env.settings declared rule.target.objectType := by
    intro rule member
    exact ⟨(sound.orderly.factories declared.name own configured).2 rule member,
      Or.inr ⟨own, configured, Or.inr ⟨rule, member, rfl⟩⟩⟩
  obtain ⟨up, each⟩ := planBranches_yields sound sized stands within branchesPlanned
  have sizedMiddle : (Pass.mk pass.claims middle.nextRegister).claims.length =
      env.header.length := sized
  have falls : Yields row none (env.Reusable (.object declared))
      (env.IsInstanceOf (StandsFor env.settings declared)) fallback between :=
    planFallback_yields sound sizedMiddle within configured fallbackPlanned
  have fallen := planFallback_planned sound.indexed sound.reliable sizedMiddle fallbackPlanned
  have behind : middle.nextRegister ≤ between.nextRegister := fallen.block.onward.registers
  rcases way with ⟨fresh, rfl, rfl⟩ | ⟨existing, update, after, found, assigned, rfl, rfl⟩
  · rw [fresh]
    exact selection_yields each behind falls rfl
  · rw [found]
    have low := Nat.le_trans up behind
    have old := Nat.lt_of_lt_of_le (known existing found) low
    obtain ⟨assigns, set, rfl⟩ := planAssigned_gives assigned
    have sizedUpdate : (Pass.mk pass.claims (between.nextRegister + 1)).claims.length =
        env.header.length := sized
    have updates := setProperties_planned sound.indexed sound.reliable sizedUpdate
      (Nat.lt_succ_of_lt old) set
    have above : between.nextRegister + 1 ≤ after.nextRegister := updates.onward.registers
    have agree : ∀ type, StandsFor env.settings declared type → Agree declared type :=
      fun type isStandIn => Agree.ofStandIn (sound.orderly.objects declared within) isStandIn
    have keeps := setProperties_keeps sound agree sizedUpdate within (Nat.lt_succ_of_lt old) set
    have creates : Yields row none (env.Reusable (.object declared))
        (env.IsInstanceOf (StandsFor env.settings declared))
        (selection branches fallback between.nextRegister) between.advanced :=
      selection_yields each behind falls rfl
    have kept : Yields row (some existing)
        (env.IsInstanceOf (StandsFor env.settings declared))
        (env.IsInstanceOf (StandsFor env.settings declared)) (Program.keep existing)
        (Pass.mk pass.claims (between.nextRegister + 1)) := Yields.keep
    refine Yields.reuse (Yields.filled above kept keeps) creates
      (fun value accepts reusable => ?_) (Nat.le_succ _)
      (Nat.le_succ_of_le above) (Nat.lt_succ_self _)
    exact reusable_isInstanceOf reusable accepts

theorem planObject_yields (sized : pass.claims.length = env.header.length)
    (known : ∀ register, site.existing = some register → register < pass.nextRegister)
    (within : env.Within root site.target)
    (given : Gives (planObject env recurse site) pass (some program) next) :
    Yields row site.existing (env.Reusable site.target) (env.Conforms site.target) program
      next := by
  rcases planObject_gives given with ⟨impossible, -⟩ | ⟨planned, declared, same, isObject, way⟩
  · cases impossible
  cases same
  rw [isObject] at within ⊢
  have yields : Yields row site.existing (env.Reusable (.object declared))
      (env.IsInstanceOf (StandsFor env.settings declared)) program next := by
    rcases way with ⟨alone, single⟩ | ⟨own, configured, -, polymorphic⟩
    · exact planSingle_yields sound sized known within alone single
    · exact planPolymorphic_yields sound sized known within configured polymorphic
  refine yields.mono ?_
  rintro value ⟨type, object, stands, rfl, isInstance⟩
  exact isInstance.conforms stands

end Instances

end Planning

end Unflatten
