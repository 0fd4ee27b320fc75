import Unflatten.Proofs.Planning.Locality

/-!
# Leaves and containers are planned locally

Each planner plans locally if the planner of its members does. Where elements are repeated, both
sides stop at the same element: an element claims a new column on one side exactly if it does on the
other.
-/

set_option autoImplicit false

namespace Unflatten.Planning

variable {env : Environment} {recurse : Planner} {site : Site} {offset : Nat} {pass other : Pass}

@[simp] theorem moved_target (site : Site) : (site.moved offset).target = site.target :=
  rfl

@[simp] theorem moved_scope (site : Site) : (site.moved offset).scope = site.scope :=
  rfl

@[simp] theorem moved_isRoot (site : Site) : (site.moved offset).isRoot = site.isRoot :=
  rfl

@[simp] theorem moved_isNew (site : Site) :
    (site.moved offset).existing.isNone = site.existing.isNone :=
  Option.isNone_map

theorem moved_keep (register : Register) :
    (Program.keep register).moved offset = Program.keep (register + offset) := by
  rw [Program.moved, Program.keep, renameProgram, renameSteps_nil]
  rfl

theorem moved_result (program : Program) :
    (program.moved offset).result = program.result + offset :=
  renameProgram_result _ _

/-! ## Leaves -/

section Leaves

theorem namesakes_within {scope : Scope} {claims : Claims} {group : Namesakes}
    (member : group ∈ env.header.namesakes claims scope) :
    ∀ column ∈ group.columns, column ∈ env.header ∧ scope.Covers column := by
  intro column isColumn
  have grouped := List.mem_flatMap.mpr ⟨group, member, isColumn⟩
  have permuted : ((env.header.namesakes claims scope).flatMap Namesakes.columns).Perm
      (env.header.available claims scope) :=
    @Header.namesakes_perm env.header ⟨claims, 0⟩ scope
  exact Header.mem_available (permuted.mem_iff.mp grouped)

theorem namesakes_congr {scope : Scope} {claims others : Claims}
    (agree : Claims.AgreeWithin env.header scope claims others) :
    env.header.namesakes others scope = env.header.namesakes claims scope := by
  rw [Header.namesakes, Header.namesakes, Header.available_congr agree]

variable (indexed : env.header.WellIndexed)
include indexed

theorem planUntyped_local : Local env offset (planUntyped env) := by
  intro site pass other agree
  unfold planUntyped
  simp only [moved_target, moved_scope, moved_isRoot]
  cases site.target.leaf? with
  | none => exact LocalAt.pure rfl agree
  | some leaf =>
      refine LocalAt.branch (LocalAt.pure rfl agree) (LocalAt.branch ?_ ?_)
      · refine (fresh_local agree).bind ?_
        rintro into - between after rfl - - agree
        refine LocalAt.claims ?_
        rw [namesakes_congr agree.claims]
        refine (insertGroups_local indexed leaf none into
          (fun group member => namesakes_within member) agree).bind ?_
        rintro inserts - between after rfl - - agree
        refine LocalAt.pure ?_ agree
        rw [MayBeMoved, Option.map_some, Program.moved, renameProgram, renameSteps_cons,
          Step.rename]
        rfl
      · refine (available_local agree).bind ?_
        rintro columns _ between after rfl found - agree
        obtain ⟨rfl, -⟩ := gives_available.mp found
        have within : ∀ column ∈ env.header.available pass.claims site.scope,
            column ∈ env.header ∧ site.scope.Covers column :=
          fun column member => Header.mem_available member
        generalize env.header.available pass.claims site.scope = columns at within
        rcases columns with _ | ⟨column, _ | ⟨second, rest⟩⟩
        · refine (constant_local agree .null).bind ?_
          rintro program - between after rfl - - agree
          exact LocalAt.pure rfl agree
        · obtain ⟨member, covers⟩ := within column (by simp)
          refine (read_local agree indexed member covers leaf).bind ?_
          rintro program - between after rfl - - agree
          exact LocalAt.pure rfl agree
        · refine (readAll_local indexed leaf within agree).bind ?_
          rintro items - between after rfl - - agree
          refine (pack_local agree .array items).bind ?_
          rintro program - between after rfl - - agree
          exact LocalAt.pure rfl agree

theorem planUntypedMember_local : Local env offset (planUntypedMember env) := by
  intro site pass other agree
  unfold planUntypedMember
  exact LocalAt.branch (planUntyped_local indexed site pass other agree) (LocalAt.pure rfl agree)

theorem planLeaf_local : Local env offset (planLeaf env) := by
  intro site pass other agree
  unfold planLeaf
  simp only [moved_target, moved_scope, moved_isRoot]
  cases site.target.leaf? with
  | none => exact LocalAt.pure rfl agree
  | some leaf =>
      refine (available_local agree).bind ?_
      rintro columns _ between after rfl found - agree
      obtain ⟨rfl, -⟩ := gives_available.mp found
      cases first : (env.header.available pass.claims site.scope).head? with
      | some column =>
          obtain ⟨member, covers⟩ := Header.mem_available (List.mem_of_head? first)
          refine (read_local agree indexed member covers leaf).bind ?_
          rintro program - between after rfl - - agree
          exact LocalAt.pure rfl agree
      | none =>
          refine LocalAt.branch ?_ (LocalAt.pure rfl agree)
          refine (constant_local agree leaf.defaultValue).bind ?_
          rintro program - between after rfl - - agree
          exact LocalAt.pure rfl agree

end Leaves

/-! ## Tuples, arrays and sequences -/

section Containers

variable (recursing : Local env offset recurse)

include recursing in
theorem planSlots_local (slots : List Target) (agree : pass.Agree env site.scope offset other) :
    LocalAt env site.scope offset (AreMoved offset) (planSlots env recurse site slots)
      (planSlots env recurse (site.moved offset) slots) pass other := by
  induction slots generalizing pass other with
  | nil => exact LocalAt.pure rfl agree
  | cons slot rest ih =>
      refine (recursing (site.slot env slot) pass other agree).bind ?_
      rintro found - between after rfl - - agree
      have continued {first : Program} {between after : Pass}
          (agree : between.Agree env site.scope offset after) :
          LocalAt env site.scope offset (AreMoved offset)
            (do pure (first :: (← planSlots env recurse site rest)))
            (do pure (first.moved offset :: (← planSlots env recurse (site.moved offset) rest)))
            between after := by
        refine (ih agree).bind ?_
        rintro others - between after rfl - - agree
        exact LocalAt.pure rfl agree
      cases found with
      | some program => exact continued agree
      | none =>
          refine (constant_local agree slot.defaultValue).bind ?_
          rintro first - between after rfl - - agree
          exact continued agree

include recursing in
theorem planTuple_local : Local env offset (planTuple env recurse) := by
  intro site pass other agree
  unfold planTuple
  simp only [moved_target]
  cases site.target with
  | tuple slots =>
      refine LocalAt.branch (LocalAt.pure rfl agree) ?_
      refine (isAbsent_local agree rfl).bind ?_
      rintro absent - between after rfl - - agree
      refine LocalAt.branch (LocalAt.pure rfl agree) ?_
      refine (planSlots_local recursing slots agree).bind ?_
      rintro items - between after rfl - - agree
      refine (pack_local agree .tuple items).bind ?_
      rintro program - between after rfl - - agree
      exact LocalAt.pure rfl agree
  | _ => exact LocalAt.pure rfl agree

theorem count_lt_moved {scope : Scope} {between after : Pass} (indexed : env.header.WellIndexed)
    (agree : pass.Agree env scope offset other) (later : between.Agree env scope offset after)
    (here : Claims.AgreeOutside env.header scope pass.claims between.claims)
    (there : Claims.AgreeOutside env.header scope other.claims after.claims)
    (up : pass.Onward between) (otherUp : other.Onward after) :
    pass.claims.count < between.claims.count ↔ other.claims.count < after.claims.count := by
  have isColumn {claims : Claims} (sized : claims.length = env.header.length) {index : Nat}
      (claimed : claims.isClaimed index = true) :
      ∃ column ∈ env.header, column.index = index := by
    have inside : index < env.header.length := by
      rw [← sized]
      by_contra outside
      rw [Claims.isClaimed, List.getElem?_eq_none (Nat.not_lt.mp outside)] at claimed
      cases claimed
    rw [← List.mem_range, ← indexed] at inside
    exact List.mem_map.mp inside
  rw [Claims.count_lt_iff up.length up.claims, Claims.count_lt_iff otherUp.length otherUp.claims]
  constructor
  · rintro ⟨index, claimed, free⟩
    obtain ⟨column, member, rfl⟩ := isColumn later.sized claimed
    have covers : scope.Covers column := by
      by_contra uncovered
      rw [here column member uncovered, free] at claimed
      cases claimed
    refine ⟨column.index, ?_, ?_⟩
    · rw [later.claims column member covers]
      exact claimed
    · rw [agree.claims column member covers]
      exact free
  · rintro ⟨index, claimed, free⟩
    obtain ⟨column, member, rfl⟩ := isColumn later.otherSized claimed
    have covers : scope.Covers column := by
      by_contra uncovered
      rw [there column member uncovered, free] at claimed
      cases claimed
    refine ⟨column.index, ?_, ?_⟩
    · rw [← later.claims column member covers]
      exact claimed
    · rw [← agree.claims column member covers]
      exact free

variable (indexed : env.header.WellIndexed) (reliable : Reliable env recurse)

include recursing indexed reliable in
theorem repeatElement_local (element : Target) (limit : Nat)
    (agree : pass.Agree env site.scope offset other) :
    LocalAt env site.scope offset (AreMoved offset) (repeatElement env recurse site element limit)
      (repeatElement env recurse (site.moved offset) element limit) pass other := by
  induction limit generalizing pass other with
  | zero => exact LocalAt.pure rfl agree
  | succ limit ih =>
      refine LocalAt.claims ?_
      have tried := (recursing (site.element env element) pass other agree).attempt
      refine tried.bind ?_
      rintro outcome another between after outcomes leftTried rightTried later
      have here := tried.here_given leftTried
      have there := tried.there_given rightTried
      have restored {α : Type} {items others : Planning α} {related : α → α → Prop}
          (ends : ∀ {pass other : Pass}, pass.Agree env site.scope offset other →
            LocalAt env site.scope offset related items others pass other) :
          LocalAt env site.scope offset related (do setClaims pass.claims; items)
            (do setClaims other.claims; others) between after := by
        refine (LocalAt.setClaims later agree.sized agree.otherSized agree.claims here.symm
          there.symm).bind ?_
        rintro - - between after - - - agree
        exact ends agree
      cases outcomes with
      | error failure => exact restored fun agree => LocalAt.throw failure agree
      | @ok found _ same =>
          obtain rfl := same
          cases found with
          | none => exact restored fun agree => LocalAt.pure rfl agree
          | some item =>
              have planned : Planned none pass item between := by
                rcases gives_attempt.mp leftTried with ⟨_, same, given⟩ | ⟨_, same, -⟩
                · cases same
                  exact reliable.new agree.sized rfl given
                · cases same
              have otherPlanned : Planned none other (item.moved offset) after := by
                rcases gives_attempt.mp rightTried with ⟨_, same, given⟩ | ⟨_, same, -⟩
                · cases same
                  exact reliable.new agree.otherSized rfl given
                · cases same
              have counts := count_lt_moved indexed agree later here there planned.block.onward
                otherPlanned.block.onward
              refine LocalAt.claims ?_
              by_cases grows : pass.claims.count < between.claims.count
              · rw [if_pos grows, if_pos (counts.mp grows)]
                refine (ih later).attempt.bind ?_
                rintro rest others between after outcomes - - agree
                cases outcomes with
                | error failure => exact LocalAt.pure rfl agree
                | ok same =>
                    obtain rfl := same
                    exact LocalAt.pure rfl agree
              · rw [if_neg grows, if_neg fun more => grows (counts.mpr more)]
                exact restored fun agree => LocalAt.pure rfl agree

include recursing indexed reliable in
theorem planElements_local (element : Target) (agree : pass.Agree env site.scope offset other) :
    LocalAt env site.scope offset (AreMoved offset) (planElements env recurse site element)
      (planElements env recurse (site.moved offset) element) pass other := by
  unfold planElements
  cases element.leaf? with
  | none => exact repeatElement_local recursing indexed reliable element _ agree
  | some leaf =>
      refine (available_local agree).bind ?_
      rintro columns _ between after rfl found - agree
      obtain ⟨rfl, -⟩ := gives_available.mp found
      exact readAll_local indexed leaf (fun column member => Header.mem_available member) agree

theorem reuseOrCreate_local (site : Site) (expectation : Expectation) (create : Program)
    (agree : pass.Agree env site.scope offset other) :
    LocalAt env site.scope offset (IsMoved offset) (reuseOrCreate site expectation create)
      (reuseOrCreate (site.moved offset) expectation (create.moved offset)) pass other := by
  unfold reuseOrCreate
  dsimp only [Site.moved]
  cases site.existing with
  | none => exact LocalAt.pure rfl agree
  | some existing =>
      refine (fresh_local agree).bind ?_
      rintro into - between after rfl - - agree
      refine LocalAt.pure ?_ agree
      have kept : renameProgram (Register.further offset) (Program.keep existing) =
          Program.keep (existing + offset) := moved_keep existing
      rw [IsMoved, Program.moved_single, Step.rename, kept]
      rfl

theorem appendSteps_moved (type : Option SequenceType) (target : Register) (items : List Program) :
    renameSteps (Register.further offset) (appendSteps type target items) =
      appendSteps type (target + offset) (items.map (Program.moved offset)) := by
  induction items with
  | nil => exact renameSteps_nil _
  | cons item rest ih =>
      simp only [appendSteps, List.flatMap_cons, List.map_cons, renameSteps_append] at ih ⊢
      rw [ih, renameSteps_cons, renameSteps_nil, Step.rename, Program.moved, renameProgram_steps,
        renameProgram_result]
      rfl

theorem moved_behind (start : Program) (steps : List Step) :
    Program.moved offset ⟨start.steps ++ steps, start.result⟩ =
      ⟨(start.moved offset).steps ++ renameSteps (Register.further offset) steps,
        (start.moved offset).result⟩ := by
  rw [Program.moved, renameProgram, renameSteps_append, Program.moved, renameProgram_steps,
    renameProgram_result]

include recursing indexed reliable in
theorem planItems_local (type : Option SequenceType) (element : Target)
    (agree : pass.Agree env site.scope offset other) :
    LocalAt env site.scope offset (MayBeMoved offset) (planItems env recurse site type element)
      (planItems env recurse (site.moved offset) type element) pass other := by
  refine (isAbsent_local agree rfl).bind ?_
  rintro absent - between after rfl - - agree
  refine LocalAt.branch (LocalAt.pure rfl agree) ?_
  refine (fresh_local agree).bind ?_
  rintro into - between after rfl - - agree
  have started := reuseOrCreate_local site
    (if type.isSome then Expectation.present else Expectation.sequence)
    (Program.single (.startSequence type into) into) agree
  rw [Program.moved_single, Step.rename] at started
  refine started.bind ?_
  rintro start - between after rfl - - agree
  refine (planElements_local recursing indexed reliable element agree).bind ?_
  rintro items - between after rfl - - agree
  refine LocalAt.pure ?_ agree
  rw [MayBeMoved, Option.map_some, moved_behind, appendSteps_moved, moved_result]

include recursing indexed reliable in
theorem planSequence_local : Local env offset (planSequence env recurse) := by
  intro site pass other agree
  unfold planSequence
  simp only [moved_target, moved_isNew]
  cases site.target with
  | list element => exact planItems_local recursing indexed reliable none element agree
  | sequence type =>
      exact LocalAt.branch (LocalAt.pure rfl agree)
        (planItems_local recursing indexed reliable (some type) type.element agree)
  | _ => exact LocalAt.pure rfl agree

include recursing indexed reliable in
theorem planArray_local : Local env offset (planArray env recurse) := by
  intro site pass other agree
  unfold planArray
  simp only [moved_target]
  cases site.target with
  | array element =>
      refine (isAbsent_local agree rfl).bind ?_
      rintro absent - between after rfl - - agree
      refine LocalAt.branch (LocalAt.pure rfl agree) (LocalAt.branch ?_ ?_)
      · refine (planElements_local recursing indexed reliable element agree).bind ?_
        rintro items - between after rfl - - agree
        refine (pack_local agree .array items).bind ?_
        rintro program - between after rfl - - agree
        exact LocalAt.pure rfl agree
      · refine (recursing (site.element env element) _ _ agree).bind ?_
        rintro found - between after rfl - - agree
        cases found with
        | some item =>
            refine (pack_local agree .array [item]).bind ?_
            rintro program - between after rfl - - agree
            exact LocalAt.pure rfl agree
        | none =>
            refine (pack_local agree .array []).bind ?_
            rintro program - between after rfl - - agree
            exact LocalAt.pure rfl agree
  | _ => exact LocalAt.pure rfl agree

end Containers

/-! ## Maps -/

section Maps

variable (recursing : Local env offset recurse)

include recursing in
theorem insertSegments_local (type : Option DictionaryType) (value : Target) (target : Register)
    (segments : List (String × String)) (agree : pass.Agree env site.scope offset other) :
    LocalAt env site.scope offset (StepsMoved offset)
      (insertSegments env recurse site type value target segments)
      (insertSegments env recurse (site.moved offset) type value (target + offset) segments) pass
      other := by
  induction segments generalizing pass other with
  | nil => exact LocalAt.pure (renameSteps_nil _).symm agree
  | cons segment rest ih =>
      obtain ⟨name, key⟩ := segment
      have inside := Scope.member_inside env.header site.scope name env.settings.separator
      refine ((recursing (site.member env name value none) pass other
        (agree.mono inside)).widen agree inside).bind ?_
      rintro found - between after rfl - - agree
      have continued (first : List Step) :
          LocalAt env site.scope offset (StepsMoved offset)
            (do pure (first ++ (← insertSegments env recurse site type value target rest)))
            (do pure (renameSteps (Register.further offset) first ++
              (← insertSegments env recurse (site.moved offset) type value (target + offset)
                rest)))
            between after := by
        refine (ih agree).bind ?_
        rintro others - between after rfl - - agree
        exact LocalAt.pure (renameSteps_append _ _ _).symm agree
      cases found with
      | some item =>
          have inserted := continued (item.steps ++ [.addEntry type target key item.result])
          rw [renameSteps_append, renameSteps_cons, renameSteps_nil, Step.rename] at inserted
          have same : item.moved offset =
              ⟨renameSteps (Register.further offset) item.steps, item.result + offset⟩ := by
            cases item
            rw [Program.moved, renameProgram]
            rfl
          rw [Option.map_some, same]
          exact inserted
      | none =>
          have skipped := continued []
          rw [renameSteps_nil] at skipped
          exact skipped

variable (indexed : env.header.WellIndexed)

include recursing indexed in
theorem planInserts_local (type : Option DictionaryType) (value : Target) (target : Register)
    (agree : pass.Agree env site.scope offset other) :
    LocalAt env site.scope offset (StepsMoved offset)
      (planInserts env recurse site type value target)
      (planInserts env recurse (site.moved offset) type value (target + offset)) pass other := by
  unfold planInserts
  cases value.leaf? with
  | none =>
      refine LocalAt.claims ?_
      have names : env.header.memberNames other.claims site.scope env.settings.separator =
          env.header.memberNames pass.claims site.scope env.settings.separator := by
        rw [Header.memberNames, Header.memberNames, Header.available_congr agree.claims]
      dsimp only [moved_scope]
      rw [names]
      exact insertSegments_local recursing type value target _ agree
  | some leaf =>
      refine LocalAt.claims ?_
      dsimp only [moved_scope]
      rw [namesakes_congr agree.claims]
      exact insertGroups_local indexed leaf type target
        (fun group member => namesakes_within member) agree

include recursing indexed in
theorem planEntries_local (type : Option DictionaryType) (value : Target)
    (agree : pass.Agree env site.scope offset other) :
    LocalAt env site.scope offset (MayBeMoved offset) (planEntries env recurse site type value)
      (planEntries env recurse (site.moved offset) type value) pass other := by
  refine (isAbsent_local agree rfl).bind ?_
  rintro absent - between after rfl - - agree
  refine LocalAt.branch (LocalAt.pure rfl agree) ?_
  refine (fresh_local agree).bind ?_
  rintro into - between after rfl - - agree
  have started := reuseOrCreate_local site
    (if type.isSome then Expectation.present else Expectation.map)
    (Program.single (.startMap type into) into) agree
  rw [Program.moved_single, Step.rename] at started
  refine started.bind ?_
  rintro start - between after rfl - - agree
  rw [moved_result]
  refine (planInserts_local recursing indexed type value start.result agree).bind ?_
  rintro inserts - between after rfl - - agree
  refine LocalAt.pure ?_ agree
  rw [MayBeMoved, Option.map_some, moved_behind, moved_result]

include recursing indexed in
theorem planDictionary_local : Local env offset (planDictionary env recurse) := by
  intro site pass other agree
  unfold planDictionary
  simp only [moved_target, moved_isNew]
  cases site.target with
  | map value => exact planEntries_local recursing indexed none value agree
  | dictionary type =>
      exact LocalAt.branch (LocalAt.pure rfl agree)
        (planEntries_local recursing indexed (some type) type.value agree)
  | _ => exact LocalAt.pure rfl agree

end Maps

end Unflatten.Planning
