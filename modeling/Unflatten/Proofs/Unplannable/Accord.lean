import Unflatten.Proofs.Reordering.Declarations

/-!
# Planning in accord

Two actions accord if both fail alike, or both succeed and what they give, together with where they
end, is related. The registers on the right may be further on, and further with every step: what is
planned is related by what it comes to, and not by the registers it uses.
-/

set_option autoImplicit false

namespace Unflatten.Planning

def Accords {α β : Type} (related : α → Pass → β → Pass → Prop) (left : Planning α)
    (right : Planning β) (pass other : Pass) : Prop :=
  Mirrors (fun one another => related one (left pass).2 another (right other).2) (left pass).1
    (right other).1

namespace Accords

variable {α β γ δ : Type} {related : α → Pass → β → Pass → Prop}
variable {final : γ → Pass → δ → Pass → Prop} {left : Planning α} {right : Planning β}
variable {pass other next after : Pass} {one : α} {another : β}

theorem of_gives (here : Gives left pass one next) (there : Gives right other another after)
    (same : related one next another after) : Accords related left right pass other := by
  unfold Accords
  rw [here, there]
  exact .ok same

theorem bind {first : α → Planning γ} {second : β → Planning δ}
    (accords : Accords related left right pass other)
    (rest : ∀ one next another after, Gives left pass one next → Gives right other another after →
      related one next another after → Accords final (first one) (second another) next after) :
    Accords final (left >>= first) (right >>= second) pass other := by
  unfold Accords at accords ⊢
  rw [bind_eq, bind_eq]
  cases leftDone : left pass with
  | mk outcome next =>
      cases rightDone : right other with
      | mk outcomeOther after =>
          rw [leftDone, rightDone] at accords
          cases accords with
          | error failure => exact .error failure
          | ok same => exact rest _ _ _ _ leftDone rightDone same

theorem onward {first : α → Planning γ} {second : β → Planning δ}
    (here : Gives left pass one next) (there : Gives right other another after)
    (rest : Accords final (first one) (second another) next after) :
    Accords final (left >>= first) (right >>= second) pass other := by
  unfold Accords
  rw [bind_eq, bind_eq, here, there]
  exact rest

theorem pure (same : related one pass another other) :
    Accords related (Pure.pure one) (Pure.pure another) pass other :=
  of_gives (gives_pure.mpr ⟨rfl, rfl⟩) (gives_pure.mpr ⟨rfl, rfl⟩) same

theorem fresh {first : Register → Planning γ} {second : Register → Planning δ}
    (rest : Accords final (first pass.nextRegister) (second other.nextRegister) pass.advanced
      other.advanced) :
    Accords final (Planning.fresh >>= first) (Planning.fresh >>= second) pass other :=
  onward (gives_fresh.mpr ⟨rfl, rfl⟩) (gives_fresh.mpr ⟨rfl, rfl⟩) rest

theorem claims {first : Claims → Planning γ} {second : Claims → Planning δ}
    (rest : Accords final (first pass.claims) (second other.claims) pass other) :
    Accords final (Planning.claims >>= first) (Planning.claims >>= second) pass other :=
  onward (gives_claims.mpr ⟨rfl, rfl⟩) (gives_claims.mpr ⟨rfl, rfl⟩) rest

theorem setClaims {marks marksOther : Claims} {first : Unit → Planning γ}
    {second : Unit → Planning δ}
    (rest : Accords final (first ()) (second ()) { pass with claims := marks }
      { other with claims := marksOther }) :
    Accords final (Planning.setClaims marks >>= first) (Planning.setClaims marksOther >>= second)
      pass other :=
  onward (gives_setClaims.mpr rfl) (gives_setClaims.mpr rfl) rest

theorem mono {weaker : α → Pass → β → Pass → Prop}
    (accords : Accords related left right pass other)
    (weaken : ∀ one next another after, Gives left pass one next → Gives right other another after →
      related one next another after → weaker one next another after) :
    Accords weaker left right pass other := by
  unfold Accords at accords ⊢
  cases leftDone : left pass with
  | mk outcome next =>
      cases rightDone : right other with
      | mk outcomeOther after =>
          rw [leftDone, rightDone] at accords
          cases accords with
          | error failure => exact .error failure
          | ok same => exact .ok (weaken _ _ _ _ leftDone rightDone same)

theorem congr_right {again : Planning β} {anew : Pass} (same : again anew = right other)
    (accords : Accords related left right pass other) : Accords related left again pass anew := by
  unfold Accords
  rw [same]
  exact accords

theorem same (action : Planning α) (pass : Pass) :
    Accords (fun one next another after => another = one ∧ after = next) action action pass
      pass := by
  unfold Accords
  cases action pass with
  | mk outcome next =>
      cases outcome with
      | ok value => exact .ok ⟨rfl, rfl⟩
      | error failure => exact .error failure

theorem of_local {env : Environment} {scope : Scope} {offset : Nat} {related : α → β → Prop}
    (local_ : LocalAt env scope offset related left right pass other) :
    Accords (fun one next another after => related one another ∧ next.Agree env scope offset after)
      left right pass other := by
  obtain ⟨outcomes, agree, -, -⟩ := local_
  unfold Accords
  revert outcomes
  generalize (left pass).1 = outcome
  generalize (right other).1 = outcomeOther
  intro outcomes
  cases outcomes with
  | error failure => exact .error failure
  | ok same => exact .ok ⟨same, agree⟩

end Accords

/-! ## What is set -/

section Settings

variable {env : Environment} {recurse : Planner} {site : Site} {target : Register}
variable {pass other next after : Pass} {steps again : List Step} {offset : Nat}

/-- Both sequences of steps change what the target holds in the same way. -/
structure SetsAlike (env : Environment) (target : Register) (pass other : Pass) (steps : List Step)
    (next : Pass) (again : List Step) (after : Pass) : Prop where
  agree : ∃ offset, next.Agree env .root offset after
  changes : ∀ row, ∃ change, Changes row target pass steps next change ∧
    Changes row target other again after change

/-- Both programs make the same of the existing value. -/
def RunsAlike (existing : Option Register) (pass other : Pass) (program : Program) (next : Pass)
    (again : Program) (after : Pass) : Prop :=
  ∀ row, ∃ meaning, Means row existing pass program next meaning ∧
    Means row existing other again after meaning

structure MakesAlike (env : Environment) (existing : Option Register) (pass other : Pass)
    (program : Program) (next : Pass) (again : Program) (after : Pass) : Prop where
  agree : ∃ offset, next.Agree env .root offset after
  runs : RunsAlike existing pass other program next again after

theorem MakesAlike.refl {existing : Option Register} {program : Program}
    (sized : pass.claims.length = env.header.length)
    (planned : Planned existing pass program next) :
    MakesAlike env existing pass pass program next program next := by
  refine ⟨⟨0, Pass.Agree.refl (planned.block.onward.length.trans sized)⟩, fun row => ?_⟩
  obtain ⟨meaning, means⟩ := planned.exists_means row
  exact ⟨meaning, means, means⟩

theorem RunsAlike.select {middle between : Pass} {branches : List (Branch × Claims)}
    {limit : Register} {fallback fallbackOther : Program}
    (falls : RunsAlike none middle middle fallback between fallbackOther after)
    (branching : Branching pass branches limit) (before : pass.nextRegister ≤ middle.nextRegister)
    (within : limit ≤ middle.nextRegister) (onward : middle.nextRegister ≤ between.nextRegister)
    (onwardOther : middle.nextRegister ≤ after.nextRegister) :
    RunsAlike none pass pass (selection branches fallback between.nextRegister) between.advanced
      (selection branches fallbackOther after.nextRegister) after.advanced := by
  intro row
  have selects {fallback : Program} {last : Pass} {meaning : Value → Option Value}
      (taken : Means row none pass
        ((((branches.map Prod.fst).find? fun branch => branch.accepts row).map
          BranchOf.program).getD fallback) last meaning) :
      Means row none pass (selection branches fallback last.nextRegister) last.advanced meaning :=
    .select (Nat.lt_succ_self last.nextRegister) (taken.later (Nat.le_succ last.nextRegister))
  cases found : (branches.map Prod.fst).find? fun branch => branch.accepts row with
  | some branch =>
      obtain ⟨pair, isBranch, rfl⟩ := List.mem_map.mp (List.mem_of_find?_eq_some found)
      obtain ⟨last, -, ends, planned⟩ := branching pair isBranch
      obtain ⟨meaning, means⟩ := planned.exists_means row
      have bound := Nat.le_trans ends within
      refine ⟨meaning, selects ?_, selects ?_⟩
      · rw [found]
        exact means.later (Nat.le_trans bound onward)
      · rw [found]
        exact means.later (Nat.le_trans bound onwardOther)
  | none =>
      obtain ⟨meaning, means, meansOther⟩ := falls row
      refine ⟨meaning, selects ?_, selects ?_⟩
      · rw [found]
        exact means.between before (Nat.le_refl _)
      · rw [found]
        exact meansOther.between before (Nat.le_refl _)

variable (indexed : env.header.WellIndexed) (reliable : Reliable env recurse)
variable (recursing : ∀ offset, Local env offset recurse) (isRoot : site.scope = .root)
variable (agree : pass.Agree env .root offset other) (known : target < pass.nextRegister)
include indexed reliable recursing isRoot agree known

theorem setProperty_accords (property : Property) :
    Accords (SetsAlike env target pass other) (setProperty env recurse site target property)
      (setProperty env recurse site target property) pass other := by
  have inside := Scope.member_inside env.header .root property.name env.settings.separator
  have planned := (planProperty_local indexed (recursing offset) isRoot
    (agree.mono inside)).widen agree inside
  rw [setProperty_eq]
  refine (Accords.of_local planned).bind ?_
  rintro found next _ after given givenOther ⟨rfl, agreeNext⟩
  refine .pure ⟨⟨offset, agreeNext⟩, fun row => ?_⟩
  obtain ⟨change, -, changes, changesOther⟩ := settingSteps_changes row indexed reliable agree.sized
    agree.otherSized agree.registers agreeNext.registers known given givenOther
  exact ⟨change.apply, changes, changesOther⟩

theorem setSink_accords (property : Property) :
    Accords (SetsAlike env target pass other) (setSink env recurse site target property)
      (setSink env recurse site target property) pass other := by
  have planned : LocalAt env .root offset (MayBeMoved offset)
      (planSink env recurse site property.target) (planSink env recurse site property.target) pass
      other := by
    rw [← isRoot] at agree ⊢
    exact planSink_local indexed (recursing offset) property.target agree
  refine (Accords.of_local planned).bind ?_
  rintro found next _ after given givenOther ⟨rfl, agreeNext⟩
  refine .pure ⟨⟨offset, agreeNext⟩, fun row => ?_⟩
  have stillKnown : target < other.nextRegister := by
    rw [agree.registers]
    exact Nat.lt_of_lt_of_le known (Nat.le_add_right _ _)
  cases found with
  | none => exact ⟨some, Changes.nil, Changes.nil⟩
  | some program =>
      have plannedHere := planSink_planned reliable agree.sized given
      have plannedThere := planSink_planned reliable agree.otherSized givenOther
      obtain ⟨meaning, means⟩ := plannedHere.exists_means row
      have meansThere := means.moved plannedHere agree.registers agreeNext.registers
      exact ⟨_, Changes.assigned plannedHere means known,
        Changes.assigned plannedThere meansThere stillKnown⟩

end Settings

/-! ## Several properties -/

section Lists

variable {env : Environment} {target : Register} {pass other : Pass} {offset : Nat}

/-- What the action plans are steps that change the target. -/
def Sets (env : Environment) (target : Register) (action : Planning (List Step)) : Prop :=
  ∀ {pass next : Pass} {steps : List Step}, pass.claims.length = env.header.length →
    target < pass.nextRegister → Gives action pass steps next →
    Block [target] [target] pass steps next

theorem append_accords {left leftOther right rightOther : Planning (List Step)}
    (sets : Sets env target left) (setsOther : Sets env target leftOther)
    (setsMore : Sets env target right) (setsMoreOther : Sets env target rightOther)
    (agree : pass.Agree env .root offset other) (known : target < pass.nextRegister)
    (first : Accords (SetsAlike env target pass other) left leftOther pass other)
    (second : ∀ {middle middleOther : Pass} {ahead : Nat},
      middle.Agree env .root ahead middleOther → target < middle.nextRegister →
      Accords (SetsAlike env target middle middleOther) right rightOther middle middleOther) :
    Accords (SetsAlike env target pass other)
      (do
        let steps ← left
        let more ← right
        pure (steps ++ more))
      (do
        let steps ← leftOther
        let more ← rightOther
        pure (steps ++ more))
      pass other := by
  have knownOther : target < other.nextRegister := by
    rw [agree.registers]
    exact Nat.lt_of_lt_of_le known (Nat.le_add_right _ _)
  refine first.bind ?_
  rintro steps middle stepsOther middleOther given givenOther ⟨⟨ahead, agreeMiddle⟩, alike⟩
  have block := sets agree.sized known given
  have blockOther := setsOther agree.otherSized knownOther givenOther
  have knownMiddle := Nat.lt_of_lt_of_le known block.onward.registers
  have knownMiddleOther := Nat.lt_of_lt_of_le knownOther blockOther.onward.registers
  refine (second agreeMiddle knownMiddle).bind ?_
  rintro more next moreOther after later laterOther ⟨agreeNext, alikeMore⟩
  have behind := (setsMore agreeMiddle.sized knownMiddle later).onward.registers
  have behindOther :=
    (setsMoreOther agreeMiddle.otherSized knownMiddleOther laterOther).onward.registers
  refine .pure ⟨agreeNext, fun row => ?_⟩
  obtain ⟨change, changes, changesOther⟩ := alike row
  obtain ⟨changeMore, changesMore, changesMoreOther⟩ := alikeMore row
  exact ⟨_, changes.append block behind changesMore,
    changesOther.append blockOther behindOther changesMoreOther⟩

/-- The properties that set nothing may be left out. -/
theorem setEach_accords {assign : Property → Planning (List Step)} {keep : Property → Bool}
    (sets : ∀ property, Sets env target (assign property))
    (kept : ∀ (property : Property) {pass other : Pass} {offset : Nat},
      pass.Agree env .root offset other → target < pass.nextRegister →
      Accords (SetsAlike env target pass other) (assign property) (assign property) pass other)
    (dropped : ∀ (property : Property) (pass : Pass), keep property = false → ∃ more,
      Gives (assign property) pass [] { pass with nextRegister := pass.nextRegister + more })
    (agree : pass.Agree env .root offset other) (known : target < pass.nextRegister)
    (properties : List Property) :
    Accords (SetsAlike env target pass other) (setEach assign (properties.filter keep))
      (setEach assign properties) pass other := by
  have setsEach (properties : List Property) : Sets env target (setEach assign properties) :=
    fun sized known given => setEach_planned (sets _) sized known given
  induction properties generalizing pass other offset with
  | nil =>
      exact .pure ⟨⟨offset, agree⟩, fun row => ⟨some, Changes.nil, Changes.nil⟩⟩
  | cons property rest ih =>
      cases isKept : keep property with
      | true =>
          rw [List.filter_cons_of_pos isKept]
          exact append_accords (sets property) (sets property) (setsEach _) (setsEach _) agree known
            (kept property agree known) ih
      | false =>
          rw [List.filter_cons_of_neg (by simp [isKept])]
          obtain ⟨more, given⟩ := dropped property other isKept
          -- The pass on the right is now further on than before.
          have further : pass.Agree env .root (offset + more)
              { other with nextRegister := other.nextRegister + more } :=
            ⟨by rw [← Nat.add_assoc, ← agree.registers], agree.sized, agree.otherSized,
              agree.claims⟩
          have skipped : setEach assign (property :: rest) other =
              setEach assign rest { other with nextRegister := other.nextRegister + more } := by
            rw [setEach, bind_eq, given]
            dsimp only
            simp only [List.nil_append, bind_pure]
          refine .congr_right skipped ((ih further known).mono ?_)
          rintro steps next again after - - ⟨agreeNext, changes⟩
          refine ⟨agreeNext, fun row => ?_⟩
          obtain ⟨change, here, there⟩ := changes row
          exact ⟨change, here, there.between (Nat.le_add_right _ _) (Nat.le_refl _)⟩

end Lists

end Unflatten.Planning
