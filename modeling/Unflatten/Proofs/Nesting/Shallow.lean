import Unflatten.Proofs.Keys.Objects

/-!
# Planning that meets no limit

An action is shallow if it never fails for the depth of a target. A planner is, for a site, if the
sites that it plans in it are: these are sites of elements and members, and there are none where
no column of the header is in scope.
-/

set_option autoImplicit false

namespace Unflatten

/-- The failure of a target that is nested too deep. -/
def Failure.tooDeep (name : String) : Failure :=
  .shape (.tooDeep name)

/-! ## Segments -/

theorem Header.segment?_some {scope : Scope} {separator : String} {column : HeaderColumn}
    {segment : String × String} (found : segment? scope separator column = some segment) :
    segment.1 ≠ "" := by
  unfold segment? at found
  split at found
  · cases found
  · cases found
  · rename_i chars some _
    cases found
    intro empty
    rw [← String.ofList_nil, String.ofList_inj] at empty
    exact some empty

theorem Header.memberNames_some {header : Header} {claims : Claims} {scope : Scope}
    {separator : String} {segment : String × String}
    (member : segment ∈ header.memberNames claims scope separator) : segment.1 ≠ "" := by
  have added : ∀ (found names : List (String × String)), (∀ other ∈ found, other.1 ≠ "") →
      (∀ other ∈ names, other.1 ≠ "") → ∀ other ∈ found.foldl addSegment names, other.1 ≠ "" := by
    intro found
    induction found with
    | nil => exact fun names _ named => named
    | cons first rest ih =>
        intro names each named
        refine ih _ (fun other member => each other (by simp [member])) fun other member => ?_
        unfold addSegment at member
        split at member
        · exact named other member
        · rcases List.mem_append.mp member with old | new
          · exact named other old
          · rw [List.mem_singleton.mp new]
            exact each first (by simp)
  unfold memberNames at member
  dsimp only at member
  split at member
  · cases member
  · refine added _ [] (fun other found => ?_) (by simp) segment member
    obtain ⟨column, -, is⟩ := List.mem_filterMap.mp found
    exact segment?_some is

/-- Constructors are refused for themselves and not for where they stand. -/
theorem ObjectTypeOf.chooseConstructor_shallow {type : ObjectType} {own : Option TypePolicy}
    {view : View} {settings : Settings} {name : String} :
    type.chooseConstructor own view settings ≠ .error (.tooDeep name) := by
  unfold chooseConstructor
  split
  · split
    · simp [Failure.tooDeep]
    · simp
  · split
    · simp [Failure.tooDeep]
    · split
      · simp
      · simp [Failure.tooDeep]

namespace Planning

def Shallow {α : Type} (action : Planning α) : Prop :=
  ∀ pass next name, ¬ Fails action pass (.tooDeep name) next

namespace Shallow

theorem of_ok {α : Type} {action : Planning α}
    (succeeds : ∀ pass, ∃ value next, action pass = (.ok value, next)) : Shallow action := by
  intro pass next name
  obtain ⟨value, after, computed⟩ := succeeds pass
  exact not_fails computed

theorem pure {α : Type} (value : α) : Shallow (Pure.pure value : Planning α) :=
  of_ok fun _ => ⟨_, _, rfl⟩

theorem bind {α β : Type} {first : Planning α} {rest : α → Planning β} (shallow : Shallow first)
    (later : ∀ pass value next, Gives first pass value next → Shallow (rest value)) :
    Shallow (first >>= rest) := by
  intro pass next name failed
  rcases fails_bind.mp failed with failed | ⟨value, between, given, failed⟩
  · exact shallow pass next name failed
  · exact later pass value between given between next name failed

theorem attempt {α : Type} (action : Planning α) : Shallow (attempt action) :=
  of_ok fun _ => ⟨_, _, rfl⟩

theorem planned {action : Planning Program} (shallow : Shallow action) :
    Shallow (do Pure.pure (some (← action))) :=
  shallow.bind fun _ _ _ _ => pure _

end Shallow

section Primitives

variable {env : Environment}

theorem shallow_fresh : Shallow fresh :=
  Shallow.of_ok fun _ => ⟨_, _, rfl⟩

theorem shallow_claims : Shallow claims :=
  Shallow.of_ok fun _ => ⟨_, _, rfl⟩

theorem shallow_setClaims (claims : Claims) : Shallow (setClaims claims) :=
  Shallow.of_ok fun _ => ⟨_, _, rfl⟩

theorem shallow_available (scope : Scope) : Shallow (available env scope) :=
  Shallow.of_ok fun _ => ⟨_, _, rfl⟩

theorem shallow_find? (scope : Scope) (name : String) : Shallow (find? env scope name) :=
  Shallow.of_ok fun _ => ⟨_, _, rfl⟩

theorem shallow_hasMember (scope : Scope) (name : String) : Shallow (hasMember env scope name) :=
  Shallow.of_ok fun _ => ⟨_, _, rfl⟩

theorem shallow_isAbsent (site : Site) : Shallow (isAbsent env site) :=
  Shallow.of_ok fun _ => ⟨_, _, rfl⟩

theorem shallow_read (column : HeaderColumn) (leaf : Leaf) : Shallow (read env column leaf) :=
  Shallow.of_ok fun _ => ⟨_, _, rfl⟩

theorem shallow_constant (value : Value) : Shallow (constant value) :=
  Shallow.of_ok fun _ => ⟨_, _, rfl⟩

theorem shallow_pack (form : SequenceForm) (items : List Program) : Shallow (pack form items) :=
  Shallow.of_ok fun _ => ⟨_, _, rfl⟩

theorem shallow_readAll (leaf : Leaf) (columns : List HeaderColumn) :
    Shallow (readAll env leaf columns) := by
  induction columns with
  | nil => exact Shallow.pure _
  | cons column rest ih =>
      exact (shallow_read column leaf).bind fun _ _ _ _ => ih.bind fun _ _ _ _ => Shallow.pure _

end Primitives

/-- The site is the root or sees a column. -/
def Populated (env : Environment) (site : Site) : Prop :=
  site.isRoot = true ∨ ∃ column ∈ env.header, site.scope.contains column = true

/-! ## Leaves and containers -/

section Containers

variable {env : Environment} {recurse : Planner} {site : Site} {pass next : Pass}

theorem Populated.of_present (present : Gives (isAbsent env site) pass false next) :
    Populated env site := by
  have same := (gives_isAbsent.mp present).1
  cases root : site.isRoot with
  | true => exact Or.inl root
  | false =>
      rw [root, Bool.not_false, Bool.true_and] at same
      obtain ⟨column, member⟩ :=
        List.exists_mem_of_ne_nil _ (List.isEmpty_eq_false_iff.mp same.symm)
      rw [Header.available, List.mem_filter, Bool.and_eq_true] at member
      exact Or.inr ⟨column, member.1, member.2.2⟩

theorem Shallow.unlessAbsent {α : Type} {absent present : Planning α} (shallow : Shallow absent)
    (populated : Populated env site → Shallow present) :
    Shallow (do if ← isAbsent env site then absent else present) := by
  refine (shallow_isAbsent site).bind fun pass found next given => ?_
  cases found with
  | true => exact shallow
  | false => exact populated (Populated.of_present given)

theorem shallow_readGroup (leaf : Leaf) (group : Namesakes) :
    Shallow (readGroup env leaf group) := by
  refine (shallow_readAll leaf group.columns).bind fun _ items _ _ => ?_
  split
  · exact Shallow.pure _
  · exact shallow_pack _ _

theorem shallow_insertGroups (leaf : Leaf) (type : Option DictionaryType) (target : Register)
    (groups : List Namesakes) : Shallow (insertGroups env leaf type target groups) := by
  induction groups with
  | nil => exact Shallow.pure _
  | cons group rest ih =>
      refine (shallow_readGroup leaf group).bind fun _ _ _ _ => ?_
      exact ih.bind fun _ _ _ _ => Shallow.pure _

theorem shallow_planUntyped : Shallow (planUntyped env site) := by
  unfold planUntyped
  split
  · exact Shallow.pure _
  · split
    · exact Shallow.pure _
    · split
      · refine shallow_fresh.bind fun _ into _ _ => shallow_claims.bind fun _ _ _ _ => ?_
        exact (shallow_insertGroups _ _ _ _).bind fun _ _ _ _ => Shallow.pure _
      · refine (shallow_available _).bind fun _ columns _ _ => ?_
        split
        · exact (shallow_constant _).planned
        · exact (shallow_read _ _).planned
        · exact (shallow_readAll _ _).bind fun _ _ _ _ => (shallow_pack _ _).planned

theorem shallow_planUntypedMember : Shallow (planUntypedMember env site) := by
  unfold planUntypedMember
  split
  · exact shallow_planUntyped
  · exact Shallow.pure _

theorem shallow_planLeaf : Shallow (planLeaf env site) := by
  unfold planLeaf
  split
  · exact Shallow.pure _
  · refine (shallow_available _).bind fun _ columns _ _ => ?_
    split
    · exact (shallow_read _ _).planned
    · split
      · exact (shallow_constant _).planned
      · exact Shallow.pure _

theorem shallow_reuseOrCreate (expectation : Expectation) (create : Program) :
    Shallow (reuseOrCreate site expectation create) := by
  unfold reuseOrCreate
  split
  · exact Shallow.pure _
  · exact shallow_fresh.bind fun _ _ _ _ => Shallow.pure _

theorem shallow_planTuple (noTuple : ∀ slots, site.target ≠ .tuple slots) :
    Shallow (planTuple env recurse site) := by
  unfold planTuple
  split
  · rename_i slots isTuple
    exact absurd isTuple (noTuple slots)
  · exact Shallow.pure _

theorem shallow_repeatElement {element : Target} {limit : Nat}
    (shallow : Shallow (recurse (site.element env element))) :
    Shallow (repeatElement env recurse site element limit) := by
  induction limit with
  | zero => exact Shallow.pure _
  | succ limit ih =>
      rw [repeatElement]
      refine shallow_claims.bind fun _ before _ _ => (Shallow.attempt _).bind
        fun pass outcome next given => ?_
      cases outcome with
      | error failure =>
          refine (shallow_setClaims _).bind fun _ _ _ _ => ?_
          -- What is thrown is what the element has failed with.
          rcases gives_attempt.mp given with ⟨value, impossible, -⟩ | ⟨thrown, same, failed⟩
          · cases impossible
          cases same
          intro start final name rethrown
          cases rethrown
          exact shallow pass next name failed
      | ok found =>
          cases found with
          | none => exact (shallow_setClaims _).bind fun _ _ _ _ => Shallow.pure _
          | some item =>
              refine shallow_claims.bind fun _ after _ _ => ?_
              split
              · refine (Shallow.attempt _).bind fun _ others _ _ => ?_
                cases others with
                | ok others => exact Shallow.pure _
                | error failure => exact Shallow.pure _
              · exact (shallow_setClaims _).bind fun _ _ _ _ => Shallow.pure _

theorem shallow_planElements {element : Target}
    (shallow : Shallow (recurse (site.element env element))) :
    Shallow (planElements env recurse site element) := by
  unfold planElements
  split
  · exact (shallow_available _).bind fun _ _ _ _ => shallow_readAll _ _
  · exact shallow_repeatElement shallow

theorem shallow_planItems {type : Option SequenceType} {element : Target}
    (shallow : Populated env site → Shallow (recurse (site.element env element))) :
    Shallow (planItems env recurse site type element) := by
  refine (Shallow.pure none).unlessAbsent fun populated => ?_
  refine shallow_fresh.bind fun _ _ _ _ => (shallow_reuseOrCreate _ _).bind fun _ _ _ _ => ?_
  exact (shallow_planElements (shallow populated)).bind fun _ _ _ _ => Shallow.pure _

/-- The elements of a list, an array or a sequence. -/
def IsElement (whole element : Target) : Prop :=
  whole = .list element ∨ whole = .array element ∨
    ∃ type, whole = .sequence type ∧ type.element = element

/-- The values of a map or a dictionary. -/
def IsEntry (whole value : Target) : Prop :=
  whole = .map value ∨ ∃ type, whole = .dictionary type ∧ type.value = value

theorem shallow_planSequence
    (each : Populated env site → ∀ element, IsElement site.target element →
      Shallow (recurse (site.element env element))) :
    Shallow (planSequence env recurse site) := by
  unfold planSequence
  split
  · rename_i element isList
    exact shallow_planItems fun populated => each populated element (Or.inl isList)
  · rename_i type isSequence
    split
    · exact Shallow.pure _
    · exact shallow_planItems fun populated =>
        each populated type.element (Or.inr (Or.inr ⟨type, isSequence, rfl⟩))
  · exact Shallow.pure _

theorem shallow_planArray
    (each : Populated env site → ∀ element, IsElement site.target element →
      Shallow (recurse (site.element env element))) :
    Shallow (planArray env recurse site) := by
  unfold planArray
  split
  · rename_i element isArray
    refine (Shallow.pure none).unlessAbsent fun populated => ?_
    have shallow := each populated element (Or.inr (Or.inl isArray))
    split
    · exact (shallow_planElements shallow).bind fun _ _ _ _ => (shallow_pack _ _).planned
    · refine shallow.bind fun _ found _ _ => ?_
      cases found with
      | some item => exact (shallow_pack _ _).planned
      | none => exact (shallow_pack _ _).planned
  · exact Shallow.pure _

theorem shallow_insertSegments {type : Option DictionaryType} {value : Target}
    {target : Register} {segments : List (String × String)}
    (each : ∀ segment ∈ segments, Shallow (recurse (site.member env segment.1 value none))) :
    Shallow (insertSegments env recurse site type value target segments) := by
  induction segments with
  | nil => exact Shallow.pure _
  | cons segment rest ih =>
      have later := ih fun other member => each other (by simp [member])
      refine (each segment (by simp)).bind fun _ found _ _ => ?_
      cases found with
      | some item =>
          refine (Shallow.pure _).bind fun _ _ _ _ => ?_
          exact later.bind fun _ _ _ _ => Shallow.pure _
      | none =>
          refine (Shallow.pure _).bind fun _ _ _ _ => ?_
          exact later.bind fun _ _ _ _ => Shallow.pure _

theorem shallow_planEntries {type : Option DictionaryType} {value : Target}
    (each : Populated env site → ∀ segment, segment ≠ "" →
      Shallow (recurse (site.member env segment value none))) :
    Shallow (planEntries env recurse site type value) := by
  refine (Shallow.pure none).unlessAbsent fun populated => ?_
  refine shallow_fresh.bind fun _ _ _ _ => (shallow_reuseOrCreate _ _).bind fun _ start _ _ => ?_
  refine Shallow.bind ?_ fun _ _ _ _ => Shallow.pure _
  unfold planInserts
  split
  · exact shallow_claims.bind fun _ _ _ _ => shallow_insertGroups _ _ _ _
  · refine shallow_claims.bind fun _ found _ _ => ?_
    exact shallow_insertSegments fun segment member =>
      each populated segment.1 (Header.memberNames_some member)

theorem shallow_planDictionary
    (each : Populated env site → ∀ value, IsEntry site.target value →
      ∀ segment, segment ≠ "" → Shallow (recurse (site.member env segment value none))) :
    Shallow (planDictionary env recurse site) := by
  unfold planDictionary
  split
  · rename_i value isMap
    exact shallow_planEntries fun populated => each populated value (Or.inl isMap)
  · rename_i type isDictionary
    split
    · exact Shallow.pure _
    · exact shallow_planEntries fun populated =>
        each populated type.value (Or.inr ⟨type, isDictionary, rfl⟩)
  · exact Shallow.pure _

end Containers

/-! ## Objects -/

section Objects

variable {env : Environment} {recurse : Planner} {site : Site} {type : ObjectType}

/-- The members of a type are no sinks, and planning them is shallow. -/
structure ShallowMembers (env : Environment) (recurse : Planner) (site : Site)
    (type : ObjectType) : Prop where
  property : ∀ property ∈ type.properties, property.isSink = false ∧ ∀ existing,
    Shallow (recurse (site.member env property.name property.target existing))
  parameter : ∀ constructor, UsableConstructor env.settings type constructor →
    ∀ parameter ∈ constructor.parameters, parameter.isSink = false ∧
      Shallow (recurse (site.member env parameter.name parameter.target none))

theorem shallow_planArguments {parameters : List Parameter}
    (each : ∀ parameter ∈ parameters, parameter.isSink = false ∧
      Shallow (recurse (site.member env parameter.name parameter.target none))) :
    Shallow (planArguments env recurse site parameters) := by
  induction parameters with
  | nil => exact Shallow.pure _
  | cons parameter rest ih =>
      obtain ⟨noSink, shallow⟩ := each parameter (by simp)
      have named : Shallow (planNamedArgument env recurse site parameter) := by
        refine (shallow_find? _ _).bind fun _ column? _ _ => ?_
        split
        · split
          · exact (shallow_read _ _).planned
          · exact Shallow.pure _
        · refine (shallow_hasMember _ _).bind fun _ found _ _ => ?_
          split
          · exact shallow
          · exact Shallow.pure _
      have first : Shallow (planArgument env recurse site parameter) := by
        refine named.bind fun _ found _ _ => ?_
        cases found with
        | some program => exact Shallow.pure _
        | none =>
            rw [noSink]
            exact (Shallow.pure none).bind fun _ sink? _ given => by
              obtain ⟨rfl, rfl⟩ := gives_pure.mp given
              exact shallow_constant _
      refine first.bind fun _ _ _ _ => ?_
      exact (ih fun other member => each other (by simp [member])).bind fun _ _ _ _ =>
        Shallow.pure _

theorem shallow_chooseConstructor : Shallow (chooseConstructor env site type) := by
  refine Shallow.bind (Shallow.of_ok fun _ => ⟨_, _, rfl⟩) fun _ view _ _ => ?_
  split
  · exact Shallow.pure _
  · rename_i failure refused
    intro pass next name thrown
    cases thrown
    exact ObjectTypeOf.chooseConstructor_shallow refused

theorem shallow_planInstance (members : ShallowMembers env recurse site type)
    (factory : Option Factory) : Shallow (planInstance env recurse site type factory) := by
  unfold planInstance
  dsimp only
  split
  · exact shallow_fresh.bind fun _ _ _ _ => Shallow.pure _
  · refine shallow_chooseConstructor.bind fun _ constructor _ given => ?_
    have usable := ObjectTypeOf.chooseConstructor_usable (gives_chooseConstructor.mp given).1
    refine (shallow_planArguments (members.parameter constructor usable)).bind fun _ _ _ _ => ?_
    exact shallow_fresh.bind fun _ _ _ _ => Shallow.pure _

theorem shallow_setEach {assign : Property → Planning (List Step)} {properties : List Property}
    (each : ∀ property ∈ properties, Shallow (assign property)) :
    Shallow (setEach assign properties) := by
  induction properties with
  | nil => exact Shallow.pure _
  | cons property rest ih =>
      refine (each property (by simp)).bind fun _ _ _ _ => ?_
      exact (ih fun other member => each other (by simp [member])).bind fun _ _ _ _ =>
        Shallow.pure _

theorem shallow_setProperty {property : Property} {target : Register}
    (shallow : ∀ existing,
      Shallow (recurse (site.member env property.name property.target existing))) :
    Shallow (setProperty env recurse site target property) := by
  unfold setProperty
  split
  · refine (shallow_find? _ _).bind fun _ column? _ _ => ?_
    split
    · exact (shallow_read _ _).bind fun _ _ _ _ => Shallow.pure _
    · exact Shallow.pure _
  · refine shallow_fresh.bind fun _ existing _ _ => (shallow _).bind fun _ found _ _ => ?_
    cases found with
    | some value => exact Shallow.pure _
    | none => exact Shallow.pure _

theorem shallow_planAssigned (members : ShallowMembers env recurse site type) (start : Program) :
    Shallow (planAssigned env recurse site type start) := by
  refine Shallow.bind ?_ fun _ _ _ _ => Shallow.pure _
  refine (shallow_setEach fun property member => ?_).bind fun _ _ _ _ =>
    (shallow_setEach fun property member => ?_).bind fun _ _ _ _ => Shallow.pure _
  · have own := List.mem_of_mem_filter (List.mem_of_mem_filter member)
    exact shallow_setProperty (members.property property own).2
  · have own := List.mem_of_mem_filter (List.mem_of_mem_filter member)
    have isSink := (List.mem_filter.mp member).2
    rw [(members.property property own).1] at isSink
    cases isSink

theorem shallow_planConcrete (members : ShallowMembers env recurse site type)
    (factory : Option Factory) : Shallow (planConcrete env recurse site type factory) :=
  (shallow_planInstance members factory).bind fun _ _ _ _ => shallow_planAssigned members _

/-- A type that instances of the declared type may have: the type itself or one that the settings
put in its place. -/
def StandsFor (bindings : Bindings) (settings : Settings) (declared type : ObjectType) : Prop :=
  type = declared ∨ Target.object type ∈ (Target.object declared).parts bindings settings

variable {declared : ObjectType}
variable (each : ∀ type, StandsFor env.bindings env.settings declared type →
  ShallowMembers env recurse site type)
include each

theorem shallow_planSingle {own : Option TypePolicy}
    (configured : env.settings.ofType? declared.name = own) :
    Shallow (planSingle env recurse site declared own) := by
  have stands : StandsFor env.bindings env.settings declared (concreteOf declared own) := by
    unfold concreteOf
    split
    · rename_i type found
      obtain ⟨policy, rfl, default⟩ := Option.bind_eq_some_iff.mp found
      split
      · exact Or.inr (Target.policy_parts configured (TypePolicy.default_targets default))
      · exact Or.inl rfl
    · exact Or.inl rfl
  refine (shallow_planInstance (each _ stands) _).bind fun _ _ _ _ => ?_
  exact (shallow_reuseOrCreate _ _).bind fun _ _ _ _ => shallow_planAssigned (each _ stands) _

variable {own : TypePolicy} (configured : env.settings.ofType? declared.name = some own)
include configured

theorem shallow_planBranches {start : Claims} {rules : List SubtypeCase}
    (chosen : ∀ rule ∈ rules, rule ∈ own.subtypes) :
    Shallow (planBranches env recurse site start rules) := by
  induction rules with
  | nil => exact Shallow.pure _
  | cons rule rest ih =>
      have stands : StandsFor env.bindings env.settings declared rule.target.objectType :=
        Or.inr (Target.policy_parts configured (TypePolicy.subtype_targets (chosen rule (by simp))))
      refine (shallow_setClaims _).bind fun _ _ _ _ => ?_
      refine (shallow_planConcrete (each _ stands) _).bind fun _ _ _ _ => ?_
      refine shallow_claims.bind fun _ _ _ _ => ?_
      exact (ih fun other member => chosen other (by simp [member])).bind fun _ _ _ _ =>
        Shallow.pure _

theorem shallow_planFallback : Shallow (planFallback env recurse site declared own) := by
  unfold planFallback
  split
  · rename_i type default
    exact shallow_planConcrete
      (each type (Or.inr (Target.policy_parts configured (TypePolicy.default_targets default)))) _
  · split
    · exact shallow_fresh.bind fun _ _ _ _ => Shallow.pure _
    · exact shallow_planConcrete (each declared (Or.inl rfl)) _

theorem shallow_planPolymorphic : Shallow (planPolymorphic env recurse site declared own) := by
  refine shallow_claims.bind fun _ start _ _ => ?_
  refine (shallow_planBranches each configured fun _ member => member).bind fun _ _ _ _ => ?_
  refine (shallow_setClaims _).bind fun _ _ _ _ => ?_
  refine (shallow_planFallback each configured).bind fun _ _ _ _ => ?_
  refine shallow_claims.bind fun _ _ _ _ => shallow_fresh.bind fun _ _ _ _ => ?_
  dsimp only
  split
  · exact (shallow_setClaims _).bind fun _ _ _ _ => Shallow.pure _
  · refine (shallow_setClaims _).bind fun _ _ _ _ => ?_
    refine (shallow_planAssigned (each declared (Or.inl rfl)) _).bind fun _ _ _ _ => ?_
    refine shallow_claims.bind fun _ _ _ _ => shallow_fresh.bind fun _ _ _ _ => ?_
    exact (shallow_setClaims _).bind fun _ _ _ _ => Shallow.pure _

omit each configured in
theorem shallow_planObject
    (each : Populated env site → ∀ declared, site.target = .object declared →
      ∀ type, StandsFor env.bindings env.settings declared type →
        ShallowMembers env recurse site type) :
    Shallow (planObject env recurse site) := by
  unfold planObject
  split
  · rename_i declared isObject
    refine (Shallow.pure none).unlessAbsent fun populated => ?_
    have members := each populated declared isObject
    cases configured : env.settings.ofType? declared.name with
    | none => exact (shallow_planSingle members configured).planned
    | some own =>
        dsimp only
        split
        · exact (shallow_planSingle members configured).planned
        · exact (shallow_planPolymorphic members configured).planned
  · exact Shallow.pure _

end Objects

/-! ## The standard strategy -/

theorem shallow_inOrder {site : Site} {planners : List Planner}
    (each : ∀ planner ∈ planners, Shallow (planner site)) : Shallow (inOrder site planners) := by
  induction planners with
  | nil => exact Shallow.pure _
  | cons planner rest ih =>
      have released : Shallow (orRelease (planner site)) := by
        refine shallow_claims.bind fun _ _ _ _ =>
          (each planner (by simp)).bind fun _ found _ _ => ?_
        cases found with
        | some program => exact Shallow.pure _
        | none => exact (shallow_setClaims _).bind fun _ _ _ _ => Shallow.pure _
      refine released.bind fun _ found _ _ => ?_
      cases found with
      | some program => exact Shallow.pure _
      | none => exact ih fun other member => each other (by simp [member])

end Planning

end Unflatten
