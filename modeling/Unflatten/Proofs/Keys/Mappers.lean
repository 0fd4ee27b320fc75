import Unflatten.Mapper
import Unflatten.Proofs.Keys.Objects

/-!
# Mappers of alike targets

Every strategy plans alike targets in the same way, as long as its guards answer alike. The mappers
then map every row to the same value.
-/

set_option autoImplicit false

namespace Unflatten

namespace Strategy

mutual

/-- Every guard of the strategy answers alike at both sites. -/
def Indifferent (one other : Site) : Strategy → Prop
  | .inOrder members => AllIndifferent one other members
  | .guarded admits inner => admits one = admits other ∧ Indifferent one other inner
  | _ => True

def AllIndifferent (one other : Site) : List Strategy → Prop
  | [] => True
  | strategy :: rest => Indifferent one other strategy ∧ AllIndifferent one other rest

end

end Strategy

namespace Planning

variable {env : Environment} {header : Header} {later : Bindings}

theorem inOrder_parallel {site again : Site} {planners others : List Planner}
    (each : List.Forall₂ (fun planner other => Same (planner site) (other again))
      planners others) : Same (inOrder site planners) (inOrder again others) := by
  induction each with
  | nil => exact Parallel.refl _
  | cons first rest ih =>
      refine Parallel.bindSame (Parallel.orRelease first) fun found => ?_
      cases found with
      | some program => exact Parallel.refl _
      | none => exact ih

theorem standard_replans (matched : Header.Matches env.header header) (levels : Nat) :
    Replans env later (standard env levels) (standard (env.anew header later) levels) := by
  induction levels with
  | zero => exact fun _ _ _ => Parallel.throw _ _
  | succ levels ih =>
      intro site other alike
      refine inOrder_parallel ?_
      exact .cons (planUntypedMember_replans matched site other alike)
        (.cons (planLeaf_replans matched site other alike)
        (.cons (planTuple_replans matched ih site other alike)
        (.cons (planArray_replans matched ih site other alike)
        (.cons (planDictionary_replans matched ih site other alike)
        (.cons (planSequence_replans matched ih site other alike)
        (.cons (planObject_replans matched ih site other alike) .nil))))))

mutual

theorem planWith_parallel (matched : Header.Matches env.header header) (levels : Nat)
    {site : Site} {other : Target}
    (alike : Target.Alike env.bindings later env.settings site.target other) :
    ∀ strategy : Strategy, strategy.Indifferent site (site.toward other) →
      Same (planWith env levels strategy site)
        (planWith (env.anew header later) levels strategy (site.toward other))
  | .standard, _ => standard_replans matched (levels + 1) site other alike
  | .untyped, _ => planUntyped_replans matched site other alike
  | .leaf, _ => planLeaf_replans matched site other alike
  | .tuple, _ => planTuple_replans matched (standard_replans matched levels) site other alike
  | .array, _ => planArray_replans matched (standard_replans matched levels) site other alike
  | .map, _ => planDictionary_replans matched (standard_replans matched levels) site other alike
  | .sequence, _ =>
    planSequence_replans matched (standard_replans matched levels) site other alike
  | .object, _ => planObject_replans matched (standard_replans matched levels) site other alike
  | .decline, _ => Parallel.refl _
  | .inOrder members, indifferent => by
    rw [Strategy.Indifferent] at indifferent
    exact planAny_parallel matched levels alike members indifferent
  | .guarded admits inner, indifferent => by
    rw [Strategy.Indifferent] at indifferent
    simp only [planWith, ← indifferent.1]
    exact Parallel.branch (planWith_parallel matched levels alike inner indifferent.2)
      (Parallel.refl _)

theorem planAny_parallel (matched : Header.Matches env.header header) (levels : Nat)
    {site : Site} {other : Target}
    (alike : Target.Alike env.bindings later env.settings site.target other) :
    ∀ strategies : List Strategy, Strategy.AllIndifferent site (site.toward other) strategies →
      Same (planAny env levels strategies site)
        (planAny (env.anew header later) levels strategies (site.toward other))
  | [], _ => Parallel.refl _
  | strategy :: rest, indifferent => by
    rw [Strategy.AllIndifferent] at indifferent
    refine Parallel.bindSame
      (Parallel.orRelease (planWith_parallel matched levels alike strategy indifferent.1))
      fun found => ?_
    cases found with
    | some program => exact Parallel.refl _
    | none => exact planAny_parallel matched levels alike rest indifferent.2

end

end Planning

namespace Mapper

/-- Both mappers map every row, onto every existing value, to the same outcome. -/
structure Interchangeable (one other : Mapper) : Prop where
  maps : ∀ row, one.map row = other.map row
  updates : ∀ row existing, one.update row existing = other.update row existing

theorem interchangeable_of_plan {one other : Mapper} (same : one.plan = other.plan) :
    one.Interchangeable other :=
  ⟨fun row => by rw [map, map, same], fun row existing => by rw [update, update, same]⟩

theorem make_concurs {strategy : Strategy} {bindings later : Bindings} {one other : Target}
    {left right : Header} {settings : Settings} (matched : Header.Matches left right)
    (alike : Target.Alike bindings later settings (one.resolve bindings) (other.resolve later))
    (indifferent : strategy.Indifferent (Site.atRoot bindings one) (Site.atRoot later other)) :
    Concurs Interchangeable (make strategy bindings one left settings)
      (make strategy later other right settings) := by
  have claims : Claims.none right = Claims.none left := by
    rw [Claims.none, Claims.none, matched.length]
  have planned := @Planning.planWith_parallel ⟨left, settings, bindings⟩ right later matched
    deepestLevel (Site.atRoot bindings one) _ alike strategy indifferent
    ⟨Claims.none left, existingRegister + 1⟩
  obtain ⟨passes, outcomes⟩ := planned
  have again : (Site.atRoot bindings one).toward (other.resolve later) = Site.atRoot later other :=
    rfl
  have anew : (Environment.mk left settings bindings).anew right later =
    ⟨right, settings, later⟩ := rfl
  rw [again, anew] at passes outcomes
  unfold make Plan.ofTarget
  dsimp only
  rw [claims]
  revert passes outcomes
  generalize Planning.planWith ⟨left, settings, bindings⟩ deepestLevel strategy
    (Site.atRoot bindings one) ⟨Claims.none left, existingRegister + 1⟩ = planned
  generalize Planning.planWith ⟨right, settings, later⟩ deepestLevel strategy
    (Site.atRoot later other) ⟨Claims.none left, existingRegister + 1⟩ = replanned
  intro passes outcomes
  obtain ⟨outcome, pass⟩ := planned
  obtain ⟨another, next⟩ := replanned
  obtain rfl : pass = next := passes
  cases outcomes with
  | error failure other => exact Concurs.error _ _
  | @ok found _ same =>
      subst same
      cases found with
      | none => exact Concurs.error _ _
      | some program => exact Concurs.ok (interchangeable_of_plan rfl)

end Mapper

end Unflatten
