import Unflatten.Proofs.Keys.Replanning
import Unflatten.Proofs.References.Counterparts
import Unflatten.Proofs.Reordering.Lockstep

/-!
# Containers of counterparts

Counterparts at one place are planned in parallel: both planners leave the same pass and either fail
or make programs that do the same on every row. The programs are not equal, as a step may name the
type that it makes an instance of.
-/

set_option autoImplicit false

namespace Unflatten

/-! ## Equivalent programs -/

/-- On every row both do the same to the registers, within as many registers. -/
def StepsEquivalent (steps again : List Step) : Prop :=
  ∀ row, Repeats row row steps again

structure Program.Equivalent (program again : Program) : Prop where
  result : again.result = program.result
  steps : StepsEquivalent program.steps again.steps

namespace StepsEquivalent

variable {step another : Step} {left leftAgain right rightAgain : List Step}

theorem refl (steps : List Step) : StepsEquivalent steps steps :=
  fun _ => ⟨rfl, fun _ => rfl⟩

theorem append (first : StepsEquivalent left leftAgain)
    (second : StepsEquivalent right rightAgain) :
    StepsEquivalent (left ++ right) (leftAgain ++ rightAgain) :=
  fun row => (first row).append (second row)

theorem cons (first : StepsEquivalent [step] [another])
    (second : StepsEquivalent right rightAgain) :
    StepsEquivalent (step :: right) (another :: rightAgain) :=
  first.append second

theorem single (span : another.span = step.span)
    (runs : ∀ row registers, runStep row registers another = runStep row registers step) :
    StepsEquivalent [step] [another] :=
  fun row => Repeats.single span (runs row)

end StepsEquivalent

namespace Program.Equivalent

variable {program again update updateAgain create createAgain : Program}

theorem refl (program : Program) : Equivalent program program :=
  ⟨rfl, StepsEquivalent.refl program.steps⟩

theorem repeats (same : Equivalent program again) (row : Row) : Repeats row row program again :=
  ⟨same.result, same.steps row⟩

theorem reuse {existing into : Register} {expectation : Expectation}
    (updates : Equivalent update updateAgain) (creates : Equivalent create createAgain) :
    Equivalent (Program.single (.reuse existing expectation update create into) into)
      (Program.single (.reuse existing expectation updateAgain createAgain into) into) :=
  ⟨rfl, fun row => Repeats.reuse (updates.repeats row) (creates.repeats row)⟩

theorem flatMap {programs others : List Program}
    (each : List.Forall₂ Equivalent programs others) :
    StepsEquivalent (programs.flatMap ProgramOf.steps) (others.flatMap ProgramOf.steps) ∧
      others.map ProgramOf.result = programs.map ProgramOf.result :=
  ⟨fun row => (Repeats.flatMap (each.imp fun _ _ same => same.repeats row)).1,
    map_eq_of_forall₂ each fun _ _ same => same.result⟩

end Program.Equivalent

/-- The same columns and settings with other bindings. -/
def Environment.rebound (env : Environment) (later : Bindings) : Environment :=
  { env with bindings := later }

namespace Planning

theorem Parallel.mono {α β : Type} {related wider : α → β → Prop} {left : Planning α}
    {right : Planning β} (parallel : Parallel related left right)
    (widens : ∀ one other, related one other → wider one other) : Parallel wider left right := by
  intro pass
  obtain ⟨passes, outcomes⟩ := parallel pass
  refine ⟨passes, ?_⟩
  generalize (left pass).1 = outcome at outcomes ⊢
  generalize (right pass).1 = another at outcomes ⊢
  cases outcomes with
  | ok same => exact .ok (widens _ _ same)
  | error failure another => exact .error failure another

theorem Parallel.program (action : Planning Program) :
    Parallel Program.Equivalent action action :=
  (Parallel.refl action).mono fun one _ same => same ▸ Program.Equivalent.refl one

theorem Parallel.program? (action : Planning (Option Program)) :
    Parallel (Option.Rel Program.Equivalent) action action := by
  refine (Parallel.refl action).mono fun one other same => ?_
  subst same
  cases one with
  | none => exact .none
  | some program => exact .some (Program.Equivalent.refl program)

theorem Parallel.steps (action : Planning (List Step)) : Parallel StepsEquivalent action action :=
  (Parallel.refl action).mono fun one _ same => same ▸ StepsEquivalent.refl one

theorem Parallel.planned {left right : Planning Program}
    (parallel : Parallel Program.Equivalent left right) :
    Parallel (Option.Rel Program.Equivalent) (do Pure.pure (some (← left)))
      (do Pure.pure (some (← right))) :=
  Parallel.bind parallel fun _ _ same => Parallel.pure (.some same)

/-- Both planners make equivalent programs of counterparts at the same place. -/
def Follows (settings : Settings) (related : Target → Target → Prop) (planner again : Planner) :
    Prop :=
  ∀ (site : Site) (other : Target), Target.Counterpart related settings site.target other →
    Parallel (Option.Rel Program.Equivalent) (planner site) (again (site.toward other))

variable {related : Target → Target → Prop} {env : Environment} {later : Bindings}
variable {recurse again : Planner} {site : Site}

/-! ## Leaves -/

section Rebound

variable (leaf : Leaf)

@[simp] theorem readAll_rebound (columns : List HeaderColumn) :
    readAll (env.rebound later) leaf columns = readAll env leaf columns := by
  induction columns with
  | nil => rfl
  | cons column rest ih =>
      rw [readAll, readAll, ih]
      rfl

@[simp] theorem readGroup_rebound (group : Namesakes) :
    readGroup (env.rebound later) leaf group = readGroup env leaf group := by
  rw [readGroup, readGroup, readAll_rebound]

@[simp] theorem insertGroups_rebound (type : Option DictionaryType) (target : Register)
    (groups : List Namesakes) :
    insertGroups (env.rebound later) leaf type target groups =
      insertGroups env leaf type target groups := by
  induction groups with
  | nil => rfl
  | cons group rest ih => rw [insertGroups, insertGroups, ih, readGroup_rebound]

end Rebound

section Leaves

variable (unfolds : Unfolds related env.settings env.bindings later)
include unfolds

theorem planUntyped_follows :
    Follows env.settings related (planUntyped env) (planUntyped (env.rebound later)) := by
  intro site other same
  have equal : planUntyped (env.rebound later) (site.toward other) = planUntyped env site := by
    simp only [planUntyped, Site.toward_target, Site.toward_scope, Site.toward_isRoot,
      unfolds.resolved_leaf? same, readAll_rebound, insertGroups_rebound]
    rfl
  rw [equal]
  exact Parallel.program? _

theorem planUntypedMember_follows :
    Follows env.settings related (planUntypedMember env) (planUntypedMember (env.rebound later)) := by
  intro site other same
  have takes : takesAllColumns (site.toward other) = takesAllColumns site := by
    simp only [takesAllColumns, Site.toward, same.isAny]
  simp only [planUntypedMember, takes]
  exact Parallel.branch (planUntyped_follows unfolds site other same) (Parallel.pure .none)

theorem planLeaf_follows : Follows env.settings related (planLeaf env) (planLeaf (env.rebound later)) := by
  intro site other same
  have equal : planLeaf (env.rebound later) (site.toward other) = planLeaf env site := by
    simp only [planLeaf, Site.toward_target, Site.toward_scope, Site.toward_isRoot,
      unfolds.resolved_leaf? same]
    rfl
  rw [equal]
  exact Parallel.program? _

end Leaves

/-! ## Tuples, arrays and sequences -/

theorem isAbsent_follows (other : Target) :
    Same (isAbsent env site) (isAbsent (env.rebound later) (site.toward other)) :=
  Parallel.refl _

theorem reuseOrCreate_follows (place : Target) {expectation : Expectation}
    {create createAgain : Program} (creates : Program.Equivalent create createAgain) :
    Parallel Program.Equivalent (reuseOrCreate site expectation create)
      (reuseOrCreate (site.toward place) expectation createAgain) := by
  unfold reuseOrCreate
  rw [Site.toward_existing]
  cases site.existing with
  | none => exact Parallel.pure creates
  | some existing =>
      refine Parallel.bindSame (Parallel.refl fresh) fun into => Parallel.pure ?_
      exact Program.Equivalent.reuse (Program.Equivalent.refl _) creates

theorem pack_follows {form : SequenceForm} {items others : List Program}
    (same : List.Forall₂ Program.Equivalent items others) :
    Parallel Program.Equivalent (pack form items) (pack form others) := by
  obtain ⟨steps, results⟩ := Program.Equivalent.flatMap same
  refine Parallel.bindSame (Parallel.refl fresh) fun into => Parallel.pure ⟨rfl, ?_⟩
  rw [results]
  exact steps.append (StepsEquivalent.refl _)

section Containers

variable (unfolds : Unfolds related env.settings env.bindings later)
variable (recursing : Follows env.settings related recurse again)
include unfolds recursing

theorem planSlots_follows (place : Target) {slots others : List Target}
    (same : List.Forall₂ related slots others) :
    Parallel (List.Forall₂ Program.Equivalent) (planSlots env recurse site slots)
      (planSlots (env.rebound later) again (site.toward place) others) := by
  induction same with
  | nil => exact Parallel.pure .nil
  | @cons slot another slots others first rest ih =>
      have continued : ∀ item itemAgain : Program, Program.Equivalent item itemAgain →
          Parallel (List.Forall₂ Program.Equivalent)
            (do pure (item :: (← planSlots env recurse site slots)))
            (do pure (itemAgain :: (← planSlots (env.rebound later) again (site.toward place)
              others))) :=
        fun item itemAgain same =>
          Parallel.bind ih fun _ _ items => Parallel.pure (.cons same items)
      refine Parallel.bind (recursing (site.slot env slot) (another.resolve later)
        (unfolds.step slot another first)) fun found foundAgain items => ?_
      rw [unfolds.defaultValue first]
      cases items with
      | some same => exact Parallel.bind (Parallel.pure same) continued
      | none => exact Parallel.bind (Parallel.program _) continued

theorem planTuple_follows :
    Follows env.settings related (planTuple env recurse) (planTuple (env.rebound later) again) := by
  intro site other same
  unfold planTuple
  rw [Site.toward_target]
  cases found : site.target with
  | tuple slots =>
      rw [found] at same
      cases same with
      | @tuple _ others slotsSame =>
          have empty : others.isEmpty = slots.isEmpty := by
            rw [Bool.eq_iff_iff, List.isEmpty_iff_length_eq_zero,
              List.isEmpty_iff_length_eq_zero, slotsSame.length_eq]
          dsimp only
          rw [empty, slotsSame.length_eq]
          refine Parallel.branch (Parallel.pure .none) ?_
          refine Parallel.bindSame (isAbsent_follows _) fun absent => ?_
          refine Parallel.branch (Parallel.pure .none) ?_
          exact Parallel.bind (planSlots_follows unfolds recursing _ slotsSame)
            fun _ _ items => Parallel.planned (pack_follows items)
  | _ =>
      rw [found] at same
      cases same
      exact Parallel.pure .none

theorem repeatElement_follows (place : Target) {element another : Target}
    (same : related element another) (limit : Nat) :
    Parallel (List.Forall₂ Program.Equivalent) (repeatElement env recurse site element limit)
      (repeatElement (env.rebound later) again (site.toward place) another limit) := by
  induction limit with
  | zero => exact Parallel.pure .nil
  | succ limit ih =>
      have ended : ∀ before : Claims, Parallel (List.Forall₂ Program.Equivalent)
          (do setClaims before; pure []) (do setClaims before; pure []) :=
        fun before => Parallel.bindSame (Parallel.refl _) fun _ => Parallel.pure .nil
      refine Parallel.bindSame (Parallel.refl claims) fun before => ?_
      refine Parallel.bind (Parallel.attempt (recursing (site.element env element) _
        (unfolds.step element another same))) fun one other outcomes => ?_
      cases outcomes with
      | error failure another =>
          exact Parallel.bindSame (Parallel.refl _) fun _ => Parallel.throw failure another
      | ok found =>
          cases found with
          | none => exact ended before
          | some item =>
              refine Parallel.bindSame (Parallel.refl claims) fun after => ?_
              refine Parallel.branch ?_ (ended before)
              refine Parallel.bind (Parallel.attempt ih) fun rest others outcomes => ?_
              cases outcomes with
              | error => exact Parallel.pure (.cons item .nil)
              | ok items => exact Parallel.pure (.cons item items)

theorem planElements_follows (place : Target) {element another : Target}
    (same : related element another) :
    Parallel (List.Forall₂ Program.Equivalent) (planElements env recurse site element)
      (planElements (env.rebound later) again (site.toward place) another) := by
  unfold planElements
  rw [unfolds.leaf? same]
  cases element.leaf? with
  | none => exact repeatElement_follows unfolds recursing place same _
  | some leaf =>
      refine Parallel.bindSame (Parallel.refl (available env site.scope)) fun columns => ?_
      rw [readAll_rebound]
      refine (Parallel.refl _).mono fun items others same => ?_
      subst same
      exact List.forall₂_same.mpr fun item _ => Program.Equivalent.refl item

omit unfolds recursing in
theorem appendSteps_follows {type another : Option SequenceType} (target : Register)
    (same : Option.Rel (SequenceTypeOf.Counterpart related) type another)
    {items others : List Program} (each : List.Forall₂ Program.Equivalent items others) :
    StepsEquivalent (appendSteps type target items) (appendSteps another target others) := by
  have adds : addItem another = addItem type := by
    cases same with
    | none => rfl
    | some same => funext whole item; simp only [addItem, same.add]
  induction each with
  | nil => exact StepsEquivalent.refl _
  | cons first _ ih =>
      refine StepsEquivalent.append (first.steps.append ?_) ih
      refine StepsEquivalent.single ?_ fun row registers => ?_
      · rw [Step.span, Step.span, first.result]
      · rw [runStep, runStep, adds, first.result]

theorem planItems_follows (place : Target) {type another : Option SequenceType}
    (types : Option.Rel (SequenceTypeOf.Counterpart related) type another)
    {element twin : Target} (same : related element twin) :
    Parallel (Option.Rel Program.Equivalent) (planItems env recurse site type element)
      (planItems (env.rebound later) again (site.toward place) another twin) := by
  have starts : newSequence another = newSequence type := by
    cases types with
    | none => rfl
    | some same => simp only [newSequence, same.seed, same.name]
  have isSome : another.isSome = type.isSome := by
    cases types with
    | none => rfl
    | some _ => rfl
  refine Parallel.bindSame (isAbsent_follows _) fun absent => ?_
  refine Parallel.branch (Parallel.pure .none) ?_
  refine Parallel.bindSame (Parallel.refl fresh) fun into => ?_
  dsimp only
  rw [isSome]
  have create : Program.Equivalent (Program.single (.startSequence type into) into)
      (Program.single (.startSequence another into) into) := by
    refine ⟨rfl, StepsEquivalent.single rfl fun row registers => ?_⟩
    rw [runStep, runStep, starts]
  refine Parallel.bind (reuseOrCreate_follows place create) fun start startAgain started => ?_
  refine Parallel.bind (planElements_follows unfolds recursing place same)
    fun items itemsAgain each => Parallel.pure (.some ⟨started.result, ?_⟩)
  dsimp only
  rw [started.result]
  exact started.steps.append (appendSteps_follows start.result types each)

theorem planSequence_follows :
    Follows env.settings related (planSequence env recurse) (planSequence (env.rebound later) again) := by
  intro site other same
  unfold planSequence
  rw [Site.toward_target]
  cases found : site.target with
  | list element =>
      rw [found] at same
      cases same with
      | list elements => exact planItems_follows unfolds recursing _ .none elements
  | sequence type =>
      rw [found] at same
      cases same with
      | @sequence _ another types =>
          dsimp only
          rw [types.seed]
          exact Parallel.branch (Parallel.pure .none)
            (planItems_follows unfolds recursing _ (.some types) types.element)
  | _ =>
      rw [found] at same
      cases same
      exact Parallel.pure .none

theorem planArray_follows :
    Follows env.settings related (planArray env recurse) (planArray (env.rebound later) again) := by
  intro site other same
  unfold planArray
  rw [Site.toward_target]
  cases found : site.target with
  | array element =>
      rw [found] at same
      cases same with
      | @array _ another elements =>
          dsimp only
          rw [unfolds.isLeaf elements]
          refine Parallel.bindSame (isAbsent_follows _) fun absent => ?_
          refine Parallel.branch (Parallel.pure .none) (Parallel.branch ?_ ?_)
          · exact Parallel.bind (planElements_follows unfolds recursing _ elements)
              fun _ _ items => Parallel.planned (pack_follows items)
          · refine Parallel.bind (recursing (site.element env element) _
              (unfolds.step element another elements)) fun found foundAgain items => ?_
            cases items with
            | some same => exact Parallel.planned (pack_follows (.cons same .nil))
            | none => exact Parallel.planned (pack_follows .nil)
  | _ =>
      rw [found] at same
      cases same
      exact Parallel.pure .none

/-! ## Maps -/

omit unfolds recursing in
theorem addEntry_follows {type another : Option DictionaryType}
    (types : Option.Rel (DictionaryTypeOf.Counterpart related) type another) (target : Register)
    (key : String) {item itemAgain : Register} (same : itemAgain = item) :
    StepsEquivalent [.addEntry type target key item] [.addEntry another target key itemAgain] := by
  have inserts : insertItem another = insertItem type := by
    cases types with
    | none => rfl
    | some same => funext whole key item; simp only [insertItem, same.insert]
  subst same
  refine StepsEquivalent.single rfl fun row registers => ?_
  rw [runStep, runStep, inserts]

omit unfolds recursing in
theorem insertGroups_follows (leaf : Leaf) {type another : Option DictionaryType}
    (types : Option.Rel (DictionaryTypeOf.Counterpart related) type another) (target : Register)
    (groups : List Namesakes) :
    Parallel StepsEquivalent (insertGroups env leaf type target groups)
      (insertGroups (env.rebound later) leaf another target groups) := by
  induction groups with
  | nil => exact Parallel.pure (StepsEquivalent.refl [])
  | cons group rest ih =>
      rw [insertGroups, insertGroups, readGroup_rebound]
      refine Parallel.bind (Parallel.program _) fun item itemAgain same => ?_
      refine Parallel.bind ih fun steps stepsAgain others => Parallel.pure ?_
      exact same.steps.append
        ((addEntry_follows types target group.display same.result).cons others)

theorem insertSegments_follows (place : Target) {type another : Option DictionaryType}
    (types : Option.Rel (DictionaryTypeOf.Counterpart related) type another) {value twin : Target}
    (same : related value twin) (target : Register) (segments : List (String × String)) :
    Parallel StepsEquivalent (insertSegments env recurse site type value target segments)
      (insertSegments (env.rebound later) again (site.toward place) another twin target
        segments) := by
  induction segments with
  | nil => exact Parallel.pure (StepsEquivalent.refl [])
  | cons segment rest ih =>
      obtain ⟨name, key⟩ := segment
      have continued : ∀ first firstAgain : List Step, StepsEquivalent first firstAgain →
          Parallel StepsEquivalent
            (do pure (first ++ (← insertSegments env recurse site type value target rest)))
            (do pure (firstAgain ++ (← insertSegments (env.rebound later) again
              (site.toward place) another twin target rest))) :=
        fun first firstAgain same =>
          Parallel.bind ih fun _ _ others => Parallel.pure (same.append others)
      refine Parallel.bind (recursing (site.member env name value none) _
        (unfolds.step value twin same)) fun found foundAgain items => ?_
      cases items with
      | none => exact Parallel.bind (Parallel.steps _) continued
      | some item =>
          refine Parallel.bind (Parallel.pure ?_) continued
          exact item.steps.append (addEntry_follows types target key item.result)

theorem planEntries_follows (place : Target) {type another : Option DictionaryType}
    (types : Option.Rel (DictionaryTypeOf.Counterpart related) type another) {value twin : Target}
    (same : related value twin) :
    Parallel (Option.Rel Program.Equivalent) (planEntries env recurse site type value)
      (planEntries (env.rebound later) again (site.toward place) another twin) := by
  have starts : newMap another = newMap type := by
    cases types with
    | none => rfl
    | some same => simp only [newMap, same.seed, same.name]
  have isSome : another.isSome = type.isSome := by
    cases types with
    | none => rfl
    | some _ => rfl
  refine Parallel.bindSame (isAbsent_follows _) fun absent => ?_
  refine Parallel.branch (Parallel.pure .none) ?_
  refine Parallel.bindSame (Parallel.refl fresh) fun into => ?_
  dsimp only
  rw [isSome]
  have create : Program.Equivalent (Program.single (.startMap type into) into)
      (Program.single (.startMap another into) into) := by
    refine ⟨rfl, StepsEquivalent.single rfl fun row registers => ?_⟩
    rw [runStep, runStep, starts]
  refine Parallel.bind (reuseOrCreate_follows place create) fun start startAgain started => ?_
  have inserts : Parallel StepsEquivalent
      (planInserts env recurse site type value start.result)
      (planInserts (env.rebound later) again (site.toward place) another twin
        startAgain.result) := by
    unfold planInserts
    rw [unfolds.leaf? same, started.result]
    cases value.leaf? with
    | some leaf =>
        exact Parallel.bindSame (Parallel.refl claims) fun claimed =>
          insertGroups_follows leaf types start.result _
    | none =>
        exact Parallel.bindSame (Parallel.refl claims) fun claimed =>
          insertSegments_follows unfolds recursing place types same start.result _
  refine Parallel.bind inserts fun steps stepsAgain each =>
    Parallel.pure (.some ⟨started.result, started.steps.append each⟩)

theorem planDictionary_follows :
    Follows env.settings related (planDictionary env recurse) (planDictionary (env.rebound later) again) := by
  intro site other same
  unfold planDictionary
  rw [Site.toward_target]
  cases found : site.target with
  | map value =>
      rw [found] at same
      cases same with
      | map values => exact planEntries_follows unfolds recursing _ .none values
  | dictionary type =>
      rw [found] at same
      cases same with
      | @dictionary _ another types =>
          dsimp only
          rw [types.seed]
          exact Parallel.branch (Parallel.pure .none)
            (planEntries_follows unfolds recursing _ (.some types) types.value)
  | _ =>
      rw [found] at same
      cases same
      exact Parallel.pure .none

end Containers

end Planning

end Unflatten
