import Unflatten.Mapper
import Unflatten.Proofs.Nesting.Elements

/-!
# Planning comes to an end

The standard strategy as a recursion that goes one level deeper with each call and refuses what is
deeper than the limit. The equations of this recursion have one solution, whatever the types refer
to, and within it the loop of elements is bounded by the columns that are free.
-/

set_option autoImplicit false

namespace Unflatten.Planning

/-- Planners for each depth that plan a site with the planner of the next depth for what is in it,
and fail where the site is too deep. -/
structure Descends (env : Environment) (chain : Nat → Planner) : Prop where
  within : ∀ depth ≤ deepestLevel, ∀ site,
    chain depth site = inOrder site (standardPlanners env (chain (depth + 1)))
  beyond : ∀ depth, deepestLevel < depth → ∀ site,
    chain depth site = throw (.shape (.tooDeep site.target.typeName))

/-- The standard strategy for the sites of a depth; the root is at depth zero. -/
def atDepth (env : Environment) (depth : Nat) : Planner :=
  standard env (deepestLevel + 1 - depth)

variable {env : Environment} {chain : Nat → Planner}

theorem atDepth_descends (env : Environment) : Descends env (atDepth env) where
  within depth shallow site := by
    have levels : deepestLevel + 1 - depth = deepestLevel + 1 - (depth + 1) + 1 := by omega
    rw [atDepth, levels]
    rfl
  beyond depth deep site := by
    have levels : deepestLevel + 1 - depth = 0 := by omega
    rw [atDepth, levels]
    rfl

/-- By induction on the levels that are left. -/
theorem Descends.eq_standard (descends : Descends env chain) {levels depth : Nat}
    (left : depth + levels = deepestLevel + 1) : chain depth = standard env levels := by
  induction levels generalizing depth with
  | zero =>
      funext site
      exact descends.beyond depth (by omega) site
  | succ levels ih =>
      funext site
      rw [descends.within depth (by omega) site, ih (by omega)]
      rfl

theorem Descends.eq_atDepth (descends : Descends env chain) : chain = atDepth env := by
  funext depth
  by_cases shallow : depth ≤ deepestLevel + 1
  · exact descends.eq_standard (by omega)
  · funext site
    rw [descends.beyond depth (by omega), (atDepth_descends env).beyond depth (by omega)]

/-- What holds of the elements that are planned for a site from a pass. -/
structure BoundedElements (env : Environment) (recurse : Planner) (site : Site)
    (element : Target) (pass : Pass) : Prop where
  /-- The elements are those of the unbounded loop. -/
  loop : ∀ outcome next, ElementLoop env recurse site element [] pass outcome next ↔
    planElements env recurse site element pass = (outcome, next)
  /-- An element that is kept has claimed a column that was free. -/
  progress : ∀ item between, Gives (recurse (site.element env element)) pass (some item) between →
    pass.claims.count < between.claims.count →
    between.claims.length = pass.claims.length ∧
      ∃ column, pass.claims.isClaimed column = false ∧ between.claims.isClaimed column = true
  /-- There are no more elements than free columns. -/
  bound : ∀ items next, Gives (planElements env recurse site element) pass items next →
    items.length ≤ pass.claims.free

theorem Reliable.boundedElements {recurse : Planner} {site : Site} {element : Target} {pass : Pass}
    (reliable : Reliable env recurse) (isNode : element.leaf? = none)
    (sized : pass.claims.length = env.header.length) :
    BoundedElements env recurse site element pass where
  loop outcome next := planElements_loop reliable isNode sized
  progress item between planned claims :=
    ⟨(reliable.new sized rfl planned).block.onward.length,
      reliable.claims_new sized rfl planned claims⟩
  bound items next given := by
    have loop := (planElements_loop reliable isNode sized).mpr given
    have few := loop.length_le reliable sized rfl
    rw [List.length_nil, Nat.zero_add] at few
    exact few

/-- For all columns, settings and types: the recursion of the standard strategy has one solution,
in which each call is one level deeper and none below the limit succeeds; it is what plans a root,
and the elements of each site in it are as many as the free columns at most. -/
theorem standard_terminates (columns : List Column) (settings : Settings) (bindings : Bindings) :
    let env : Environment := ⟨Header.ofColumns columns, settings, bindings⟩
    ∃ chain : Nat → Planner,
      Descends env chain ∧ (∀ other, Descends env other → other = chain) ∧
      planWith env deepestLevel .standard = chain 0 ∧
      ∀ depth site element pass, element.leaf? = none →
        pass.claims.length = env.header.length →
        BoundedElements env (chain depth) site element pass := by
  intro env
  refine ⟨atDepth env, atDepth_descends env, fun other => Descends.eq_atDepth, rfl, ?_⟩
  intro depth site element pass isNode sized
  have reliable : Reliable env (atDepth env depth) :=
    standard_reliable (Header.ofColumns_wellIndexed columns) (deepestLevel + 1 - depth)
  exact reliable.boundedElements isNode sized

/-! ## A sink of its own type

Each instance takes the column without a name for the next one, so nothing but the limit ends it. -/

namespace Coils

def coilRef : Reference :=
  ⟨1, "Coil"⟩

def coil : ObjectType :=
  ObjectTypeOf.declare 1 "Coil" false
    [{ name := "inner", target := .reference coilRef, isSink := true }] 11 []

def columns : List Column :=
  [Column.declare "" .string]

def refusal? : Option Failure :=
  match Mapper.make .standard [(coilRef.ident, coil)] (.object coil) (Header.ofColumns columns)
      {} with
  | .ok _ => none
  | .error failure => some failure

example : refusal? = some (.shape (.tooDeep "Coil")) := by decide +kernel

end Coils

end Unflatten.Planning
