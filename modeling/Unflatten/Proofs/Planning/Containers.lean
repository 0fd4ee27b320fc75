import Unflatten.Proofs.Planning.Outcome

/-!
# Planned leaves and containers

What a planner of leaves, tuples, arrays, sequences or maps has done where it succeeds. One that
declines has changed nothing.
-/

set_option autoImplicit false

namespace Unflatten.Planning

/-! ## Leaves -/

section Planners

variable {env : Environment} {recurse : Planner} {site : Site} {pass next : Pass}
variable {program : Program} {result : Option Program}

theorem readAll_cons {leaf : Leaf} {column : HeaderColumn} {rest : List HeaderColumn}
    {items : List Program}
    (given : Gives (readAll env leaf (column :: rest)) pass items next) :
    ∃ first middle others, Gives (read env column leaf) pass first middle ∧
      Gives (readAll env leaf rest) middle others next ∧ items = first :: others := by
  simp only [readAll, gives_bind, gives_pure] at given
  obtain ⟨first, middle, read, others, after, readRest, rfl, rfl⟩ := given
  exact ⟨first, middle, others, read, readRest, rfl⟩

theorem readGroup_gives {leaf : Leaf} {group : Namesakes}
    (given : Gives (readGroup env leaf group) pass program next) :
    ∃ items middle, Gives (readAll env leaf group.columns) pass items middle ∧
      ((items = [program] ∧ next = middle) ∨ Gives (pack .array items) middle program next) := by
  simp only [readGroup, gives_bind] at given
  obtain ⟨items, middle, reads, given⟩ := given
  refine ⟨items, middle, reads, ?_⟩
  split at given
  · obtain ⟨rfl, rfl⟩ := gives_pure.mp given
    exact Or.inl ⟨rfl, rfl⟩
  · exact Or.inr given

theorem insertGroups_cons {leaf : Leaf} {type : Option DictionaryType} {target : Register}
    {group : Namesakes} {rest : List Namesakes} {steps : List Step}
    (given : Gives (insertGroups env leaf type target (group :: rest)) pass steps next) :
    ∃ item middle others, Gives (readGroup env leaf group) pass item middle ∧
      Gives (insertGroups env leaf type target rest) middle others next ∧
      steps = item.steps ++ .addEntry type target group.display item.result :: others := by
  simp only [insertGroups, gives_bind, gives_pure] at given
  obtain ⟨item, middle, read, others, after, inserts, rfl, rfl⟩ := given
  exact ⟨item, middle, others, read, inserts, rfl⟩

/-- The four ways to take all columns: as entries at the root, elsewhere as null, as one value or as
an array. -/
theorem planUntyped_gives (given : Gives (planUntyped env site) pass result next) :
    (result = none ∧ next = pass) ∨ ∃ program leaf, result = some program ∧
      site.target.leaf? = some leaf ∧ leaf.isAny = true ∧
      ((site.isRoot = true ∧ ∃ inserts,
          Gives
            (insertGroups env leaf none pass.nextRegister
              (env.header.namesakes pass.claims site.scope))
            pass.advanced inserts next ∧
          program = ⟨.startMap none pass.nextRegister :: inserts, pass.nextRegister⟩) ∨
        Gives (constant .null) pass program next ∨
        (∃ column, env.header.available pass.claims site.scope = [column] ∧
          Gives (read env column leaf) pass program next) ∨
        (∃ items middle,
          Gives (readAll env leaf (env.header.available pass.claims site.scope)) pass items middle ∧
          Gives (pack .array items) middle program next)) := by
  unfold planUntyped at given
  split at given
  · exact Or.inl (gives_pure.mp given)
  · rename_i leaf isLeaf
    split at given
    · exact Or.inl (gives_pure.mp given)
    · rename_i untyped
      right
      split at given
      · rename_i root
        simp only [gives_bind, gives_fresh, gives_claims, gives_pure] at given
        obtain ⟨into, between, ⟨rfl, rfl⟩, found, after, ⟨rfl, rfl⟩, inserts, final, given,
          rfl, rfl⟩ := given
        exact ⟨_, leaf, rfl, isLeaf, by simpa using untyped, Or.inl ⟨root, inserts, given, rfl⟩⟩
      · simp only [gives_bind, gives_available] at given
        obtain ⟨columns, between, ⟨rfl, rfl⟩, given⟩ := given
        split at given
        · obtain ⟨program, rfl, planned⟩ := gives_planned.mp given
          exact ⟨program, leaf, rfl, isLeaf, by simpa using untyped, Or.inr (Or.inl planned)⟩
        · rename_i column only
          obtain ⟨program, rfl, planned⟩ := gives_planned.mp given
          exact ⟨program, leaf, rfl, isLeaf, by simpa using untyped,
            Or.inr (Or.inr (Or.inl ⟨column, only, planned⟩))⟩
        · obtain ⟨items, middle, reads, given⟩ := gives_bind.mp given
          obtain ⟨program, rfl, planned⟩ := gives_planned.mp given
          exact ⟨program, leaf, rfl, isLeaf, by simpa using untyped,
            Or.inr (Or.inr (Or.inr ⟨items, middle, reads, planned⟩))⟩

theorem planUntypedMember_gives (given : Gives (planUntypedMember env site) pass result next) :
    (result = none ∧ next = pass) ∨
      (takesAllColumns site = true ∧ Gives (planUntyped env site) pass result next) := by
  unfold planUntypedMember at given
  split at given
  · rename_i takes
    exact Or.inr ⟨takes, given⟩
  · exact Or.inl (gives_pure.mp given)

theorem planLeaf_gives (given : Gives (planLeaf env site) pass result next) :
    (result = none ∧ next = pass) ∨ ∃ program leaf, result = some program ∧
      site.target.leaf? = some leaf ∧
      ((∃ column, (env.header.available pass.claims site.scope).head? = some column ∧
          Gives (read env column leaf) pass program next) ∨
        (site.isRoot = true ∧ Gives (constant leaf.defaultValue) pass program next)) := by
  unfold planLeaf at given
  split at given
  · exact Or.inl (gives_pure.mp given)
  · rename_i leaf isLeaf
    simp only [gives_bind, gives_available] at given
    obtain ⟨columns, between, ⟨rfl, rfl⟩, given⟩ := given
    split at given
    · rename_i column first
      obtain ⟨program, rfl, planned⟩ := gives_planned.mp given
      exact Or.inr ⟨program, leaf, rfl, isLeaf, Or.inl ⟨column, first, planned⟩⟩
    · split at given
      · rename_i root
        obtain ⟨program, rfl, planned⟩ := gives_planned.mp given
        exact Or.inr ⟨program, leaf, rfl, isLeaf, Or.inr ⟨root, planned⟩⟩
      · exact Or.inl (gives_pure.mp given)

/-! ## Tuples, arrays and sequences -/

theorem planSlots_cons {target : Target} {rest : List Target} {items : List Program}
    (given : Gives (planSlots env recurse site (target :: rest)) pass items next) :
    ∃ first middle others,
      (Gives (recurse (site.slot env target)) pass (some first) middle ∨
        ∃ between, Gives (recurse (site.slot env target)) pass none between ∧
          Gives (constant target.defaultValue) between first middle) ∧
      Gives (planSlots env recurse site rest) middle others next ∧ items = first :: others := by
  rw [planSlots, gives_bind] at given
  obtain ⟨found, between, slot, given⟩ := given
  have finish {first : Program} {middle : Pass}
      (later : Gives (do let others ← planSlots env recurse site rest; pure (first :: others))
        middle items next) :
      ∃ others, Gives (planSlots env recurse site rest) middle others next ∧
        items = first :: others := by
    rw [gives_bind] at later
    obtain ⟨others, after, slots, later⟩ := later
    obtain ⟨rfl, rfl⟩ := gives_pure.mp later
    exact ⟨others, slots, rfl⟩
  split at given
  · rw [gives_bind] at given
    obtain ⟨first, middle, same, given⟩ := given
    obtain ⟨rfl, rfl⟩ := gives_pure.mp same
    obtain ⟨others, slots, rfl⟩ := finish given
    exact ⟨first, middle, others, Or.inl slot, slots, rfl⟩
  · rw [gives_bind] at given
    obtain ⟨first, middle, default, given⟩ := given
    obtain ⟨others, slots, rfl⟩ := finish given
    exact ⟨first, middle, others, Or.inr ⟨between, slot, default⟩, slots, rfl⟩

theorem planTuple_gives (given : Gives (planTuple env recurse site) pass result next) :
    (result = none ∧ next = pass) ∨ ∃ program slots items middle, result = some program ∧
      site.target = .tuple slots ∧ Gives (planSlots env recurse site slots) pass items middle ∧
      Gives (pack .tuple items) middle program next := by
  unfold planTuple at given
  split at given
  · rename_i slots isTuple
    split at given
    · exact Or.inl (gives_pure.mp given)
    · rw [gives_bind] at given
      obtain ⟨absent, between, found, given⟩ := given
      obtain ⟨-, rfl⟩ := gives_isAbsent.mp found
      split at given
      · exact Or.inl (gives_pure.mp given)
      · obtain ⟨items, middle, slotsPlanned, given⟩ := gives_bind.mp given
        obtain ⟨program, rfl, planned⟩ := gives_planned.mp given
        exact Or.inr ⟨program, slots, items, middle, rfl, isTuple, slotsPlanned, planned⟩
  · exact Or.inl (gives_pure.mp given)

/-- An element that claims a column is kept, whatever comes of the later ones; any other ends the
elements and gives back what it has claimed. -/
theorem repeatElement_succ {element : Target} {limit : Nat} {items : List Program}
    (given : Gives (repeatElement env recurse site element (limit + 1)) pass items next) :
    (items = [] ∧ ∃ found middle, Gives (recurse (site.element env element)) pass found middle ∧
        next = { middle with claims := pass.claims }) ∨
      ∃ item middle, Gives (recurse (site.element env element)) pass (some item) middle ∧
        pass.claims.count < middle.claims.count ∧
        ((∃ others, Gives (repeatElement env recurse site element limit) middle others next ∧
            items = item :: others) ∨
          (∃ failure, Fails (repeatElement env recurse site element limit) middle failure next ∧
            items = [item])) := by
  rw [repeatElement, gives_bind] at given
  obtain ⟨before, between, same, given⟩ := given
  obtain ⟨rfl, rfl⟩ := gives_claims.mp same
  rw [gives_bind] at given
  obtain ⟨outcome, middle, tried, given⟩ := given
  rcases gives_attempt.mp tried with ⟨found, rfl, planned⟩ | ⟨failure, rfl, failed⟩
  · cases found with
    | none =>
        simp only [gives_bind, gives_setClaims, gives_pure] at given
        obtain ⟨_, _, rfl, rfl, rfl⟩ := given
        exact Or.inl ⟨rfl, none, middle, planned, rfl⟩
    | some item =>
        simp only [] at given
        rw [gives_bind] at given
        obtain ⟨after, between, same, given⟩ := given
        obtain ⟨rfl, rfl⟩ := gives_claims.mp same
        split at given
        · rename_i more
          rw [gives_bind] at given
          obtain ⟨outcome, final, triedRest, given⟩ := given
          refine Or.inr ⟨item, between, planned, more, ?_⟩
          rcases gives_attempt.mp triedRest with ⟨others, rfl, kept⟩ | ⟨failure, rfl, failed⟩
          · obtain ⟨rfl, rfl⟩ := gives_pure.mp given
            exact Or.inl ⟨others, kept, rfl⟩
          · obtain ⟨rfl, rfl⟩ := gives_pure.mp given
            exact Or.inr ⟨failure, failed, rfl⟩
        · simp only [gives_bind, gives_setClaims, gives_pure] at given
          obtain ⟨_, _, rfl, rfl, rfl⟩ := given
          exact Or.inl ⟨rfl, some item, between, planned, rfl⟩
  · simp only [] at given
    rw [gives_bind] at given
    obtain ⟨_, _, _, thrown⟩ := given
    exact absurd thrown gives_throw

theorem repeatElement_fails {element : Target} {limit : Nat} {failure : Failure}
    (failed : Fails (repeatElement env recurse site element limit) pass failure next) :
    next.claims = pass.claims := by
  cases limit with
  | zero => exact absurd failed (not_fails rfl)
  | succ limit =>
      rw [repeatElement, fails_bind] at failed
      rcases failed with failed | ⟨before, between, same, failed⟩
      · exact absurd failed (not_fails rfl)
      obtain ⟨rfl, rfl⟩ := gives_claims.mp same
      rw [fails_bind] at failed
      rcases failed with failed | ⟨outcome, middle, tried, failed⟩
      · exact absurd failed (not_fails rfl)
      rcases gives_attempt.mp tried with ⟨found, rfl, planned⟩ | ⟨reason, rfl, refused⟩
      · cases found with
        | none => exact absurd failed (not_fails rfl)
        | some item =>
            simp only [] at failed
            rw [fails_bind] at failed
            rcases failed with failed | ⟨after, between, same, failed⟩
            · exact absurd failed (not_fails rfl)
            split at failed
            · rw [fails_bind] at failed
              rcases failed with failed | ⟨outcome, final, triedRest, failed⟩
              · exact absurd failed (not_fails rfl)
              cases outcome with
              | ok others => exact absurd failed (not_fails rfl)
              | error reason => exact absurd failed (not_fails rfl)
            · exact absurd failed (not_fails rfl)
      · simp only [] at failed
        rw [fails_bind] at failed
        rcases failed with failed | ⟨_, after, same, failed⟩
        · exact absurd failed (not_fails rfl)
        rw [gives_setClaims] at same
        subst same
        cases failed
        rfl

theorem planElements_gives {element : Target} {items : List Program}
    (given : Gives (planElements env recurse site element) pass items next) :
    (∃ leaf, element.leaf? = some leaf ∧
        Gives (readAll env leaf (env.header.available pass.claims site.scope)) pass items next) ∨
      (element.leaf? = none ∧
        Gives (repeatElement env recurse site element (env.header.length + 1)) pass items next) := by
  unfold planElements at given
  split at given
  · rename_i leaf isLeaf
    rw [gives_bind] at given
    obtain ⟨columns, between, found, given⟩ := given
    obtain ⟨rfl, rfl⟩ := gives_available.mp found
    exact Or.inl ⟨leaf, isLeaf, given⟩
  · rename_i notLeaf
    exact Or.inr ⟨notLeaf, given⟩

theorem reuseOrCreate_gives {expectation : Expectation} {create : Program}
    (given : Gives (reuseOrCreate site expectation create) pass program next) :
    (site.existing = none ∧ program = create ∧ next = pass) ∨
      ∃ existing, site.existing = some existing ∧ next = pass.advanced ∧
        program =
          Program.single
            (.reuse existing expectation (Program.keep existing) create pass.nextRegister)
            pass.nextRegister := by
  unfold reuseOrCreate at given
  split at given
  · rename_i isNew
    obtain ⟨rfl, rfl⟩ := gives_pure.mp given
    exact Or.inl ⟨isNew, rfl, rfl⟩
  · rename_i existing isThere
    simp only [gives_bind, gives_fresh, gives_pure] at given
    obtain ⟨into, between, ⟨rfl, rfl⟩, rfl, rfl⟩ := given
    exact Or.inr ⟨existing, isThere, rfl, rfl⟩

def sequenceExpectation (type : Option SequenceType) : Expectation :=
  if type.isSome then .present else .sequence

theorem planItems_gives {type : Option SequenceType} {element : Target}
    (given : Gives (planItems env recurse site type element) pass result next) :
    (result = none ∧ next = pass) ∨ ∃ start middle items,
      Gives
        (reuseOrCreate site (sequenceExpectation type)
          (Program.single (.startSequence type pass.nextRegister) pass.nextRegister))
        pass.advanced start middle ∧
      Gives (planElements env recurse site element) middle items next ∧
      result = some ⟨start.steps ++ appendSteps type start.result items, start.result⟩ := by
  unfold planItems at given
  rw [gives_bind] at given
  obtain ⟨absent, between, found, given⟩ := given
  obtain ⟨-, rfl⟩ := gives_isAbsent.mp found
  split at given
  · exact Or.inl (gives_pure.mp given)
  · simp only [gives_bind, gives_fresh, gives_pure] at given
    obtain ⟨into, between, ⟨rfl, rfl⟩, start, middle, starts, items, after, elements, rfl,
      rfl⟩ := given
    exact Or.inr ⟨start, middle, items, starts, elements, rfl⟩

theorem planSequence_gives (given : Gives (planSequence env recurse site) pass result next) :
    (result = none ∧ next = pass) ∨
      (∃ element, site.target = .list element ∧
        Gives (planItems env recurse site none element) pass result next) ∨
      (∃ type, site.target = .sequence type ∧
        Gives (planItems env recurse site (some type) type.element) pass result next) := by
  unfold planSequence at given
  split at given
  · rename_i element isList
    exact Or.inr (Or.inl ⟨element, isList, given⟩)
  · rename_i type isSequence
    split at given
    · exact Or.inl (gives_pure.mp given)
    · exact Or.inr (Or.inr ⟨type, isSequence, given⟩)
  · exact Or.inl (gives_pure.mp given)

theorem planArray_gives (given : Gives (planArray env recurse site) pass result next) :
    (result = none ∧ next = pass) ∨ ∃ program element items middle, result = some program ∧
      site.target = .array element ∧
      ((element.isLeaf = true ∧ Gives (planElements env recurse site element) pass items middle) ∨
        (∃ item, Gives (recurse (site.element env element)) pass (some item) middle ∧
          items = [item]) ∨
        (Gives (recurse (site.element env element)) pass none middle ∧ items = [])) ∧
      Gives (pack .array items) middle program next := by
  unfold planArray at given
  split at given
  · rename_i element isArray
    rw [gives_bind] at given
    obtain ⟨absent, between, found, given⟩ := given
    obtain ⟨-, rfl⟩ := gives_isAbsent.mp found
    split at given
    · exact Or.inl (gives_pure.mp given)
    · split at given
      · rename_i isLeaf
        rw [gives_bind] at given
        obtain ⟨items, middle, elements, given⟩ := given
        obtain ⟨program, rfl, packed⟩ := gives_planned.mp given
        exact Or.inr ⟨program, element, items, middle, rfl, isArray, Or.inl ⟨isLeaf, elements⟩,
          packed⟩
      · rw [gives_bind] at given
        obtain ⟨found, middle, planned, given⟩ := given
        split at given
        · rename_i item
          obtain ⟨program, rfl, packed⟩ := gives_planned.mp given
          exact Or.inr ⟨program, element, [item], middle, rfl, isArray,
            Or.inr (Or.inl ⟨item, planned, rfl⟩), packed⟩
        · obtain ⟨program, rfl, packed⟩ := gives_planned.mp given
          exact Or.inr ⟨program, element, [], middle, rfl, isArray,
            Or.inr (Or.inr ⟨planned, rfl⟩), packed⟩
  · exact Or.inl (gives_pure.mp given)

/-! ## Maps -/

theorem insertSegments_cons {type : Option DictionaryType} {value : Target} {target : Register}
    {segment key : String} {rest : List (String × String)} {steps : List Step}
    (given : Gives (insertSegments env recurse site type value target ((segment, key) :: rest))
      pass steps next) :
    ∃ found middle others,
      Gives (recurse (site.member env segment value none)) pass found middle ∧
      Gives (insertSegments env recurse site type value target rest) middle others next ∧
      steps =
        (match found with
          | some item => item.steps ++ [.addEntry type target key item.result]
          | none => []) ++ others := by
  rw [insertSegments, gives_bind] at given
  obtain ⟨found, middle, planned, given⟩ := given
  cases found with
  | some item =>
      simp only [gives_bind, gives_pure] at given
      obtain ⟨first, between, ⟨rfl, rfl⟩, others, after, inserts, rfl, rfl⟩ := given
      exact ⟨some item, _, others, planned, inserts, rfl⟩
  | none =>
      simp only [gives_bind, gives_pure] at given
      obtain ⟨first, between, ⟨rfl, rfl⟩, others, after, inserts, same, rfl⟩ := given
      exact ⟨none, _, others, planned, inserts, same⟩

theorem planInserts_gives {type : Option DictionaryType} {value : Target} {target : Register}
    {steps : List Step}
    (given : Gives (planInserts env recurse site type value target) pass steps next) :
    (∃ leaf, value.leaf? = some leaf ∧
        Gives
          (insertGroups env leaf type target (env.header.namesakes pass.claims site.scope))
          pass steps next) ∨
      (value.leaf? = none ∧
        Gives
          (insertSegments env recurse site type value target
            (env.header.memberNames pass.claims site.scope env.settings.separator))
          pass steps next) := by
  unfold planInserts at given
  split at given
  · rename_i leaf isLeaf
    rw [gives_bind] at given
    obtain ⟨found, between, same, given⟩ := given
    obtain ⟨rfl, rfl⟩ := gives_claims.mp same
    exact Or.inl ⟨leaf, isLeaf, given⟩
  · rename_i notLeaf
    rw [gives_bind] at given
    obtain ⟨found, between, same, given⟩ := given
    obtain ⟨rfl, rfl⟩ := gives_claims.mp same
    exact Or.inr ⟨notLeaf, given⟩

def dictionaryExpectation (type : Option DictionaryType) : Expectation :=
  if type.isSome then .present else .map

theorem planEntries_gives {type : Option DictionaryType} {value : Target}
    (given : Gives (planEntries env recurse site type value) pass result next) :
    (result = none ∧ next = pass) ∨ ∃ start middle inserts,
      Gives
        (reuseOrCreate site (dictionaryExpectation type)
          (Program.single (.startMap type pass.nextRegister) pass.nextRegister))
        pass.advanced start middle ∧
      Gives (planInserts env recurse site type value start.result) middle inserts next ∧
      result = some ⟨start.steps ++ inserts, start.result⟩ := by
  unfold planEntries at given
  rw [gives_bind] at given
  obtain ⟨absent, between, found, given⟩ := given
  obtain ⟨-, rfl⟩ := gives_isAbsent.mp found
  split at given
  · exact Or.inl (gives_pure.mp given)
  · simp only [gives_bind, gives_fresh, gives_pure] at given
    obtain ⟨into, between, ⟨rfl, rfl⟩, start, middle, starts, inserts, after, planned, rfl,
      rfl⟩ := given
    exact Or.inr ⟨start, middle, inserts, starts, planned, rfl⟩

theorem planDictionary_gives (given : Gives (planDictionary env recurse site) pass result next) :
    (result = none ∧ next = pass) ∨
      (∃ value, site.target = .map value ∧
        Gives (planEntries env recurse site none value) pass result next) ∨
      (∃ type, site.target = .dictionary type ∧
        Gives (planEntries env recurse site (some type) type.value) pass result next) := by
  unfold planDictionary at given
  split at given
  · rename_i value isMap
    exact Or.inr (Or.inl ⟨value, isMap, given⟩)
  · rename_i type isDictionary
    split at given
    · exact Or.inl (gives_pure.mp given)
    · exact Or.inr (Or.inr ⟨type, isDictionary, given⟩)
  · exact Or.inl (gives_pure.mp given)

end Planners

end Unflatten.Planning
