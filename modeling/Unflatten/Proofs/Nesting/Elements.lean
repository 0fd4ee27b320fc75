import Unflatten.Proofs.Planning.Planners
import Unflatten.Proofs.Planning.Scopes

/-!
# The loop of elements

`ElementLoop` says how the elements of a sequence are planned without a bound on their number: an
element that claims a column is kept and the loop goes on. Each kept element takes a column that was
free, so the bound of `planElements` is never what ends the loop.
-/

set_option autoImplicit false

namespace Unflatten

/-- How many columns are not claimed yet. -/
def Claims.free (claims : Claims) : Nat :=
  List.count false claims

theorem Claims.count_add_free (claims : Claims) : claims.count + claims.free = claims.length := by
  induction claims with
  | nil => rfl
  | cons mark rest ih =>
      simp only [Claims.count, Claims.free, List.count_cons, List.length_cons] at ih ⊢
      cases mark <;> simp <;> omega

namespace Planning

/-- The elements from `items` on, with the pass before the next one. What an element without a new
column has claimed is given back; a failure counts only where no element is kept. -/
inductive ElementLoop (env : Environment) (recurse : Planner) (site : Site) (element : Target) :
    List Program → Pass → Except Failure (List Program) → Pass → Prop where
  | kept {items : List Program} {item : Program} {pass between next : Pass}
      {outcome : Except Failure (List Program)}
      (planned : Gives (recurse (site.element env element)) pass (some item) between)
      (claims : pass.claims.count < between.claims.count)
      (rest : ElementLoop env recurse site element (items ++ [item]) between outcome next) :
      ElementLoop env recurse site element items pass outcome next
  | fruitless {items : List Program} {item : Program} {pass between : Pass}
      (planned : Gives (recurse (site.element env element)) pass (some item) between)
      (idle : ¬ pass.claims.count < between.claims.count) :
      ElementLoop env recurse site element items pass (.ok items)
        { between with claims := pass.claims }
  | declined {items : List Program} {pass between : Pass}
      (declines : Gives (recurse (site.element env element)) pass none between) :
      ElementLoop env recurse site element items pass (.ok items)
        { between with claims := pass.claims }
  | stopped {items : List Program} {pass between : Pass} {failure : Failure}
      (fails : Fails (recurse (site.element env element)) pass failure between)
      (some : items ≠ []) :
      ElementLoop env recurse site element items pass (.ok items)
        { between with claims := pass.claims }
  | failed {pass between : Pass} {failure : Failure}
      (fails : Fails (recurse (site.element env element)) pass failure between) :
      ElementLoop env recurse site element [] pass (.error failure)
        { between with claims := pass.claims }

section Loop

variable {env : Environment} {recurse : Planner} {site : Site} {element : Target}
variable {pass between next : Pass}

/-- What comes of the elements `items` and those behind them. -/
def behind (items : List Program) : Except Failure (List Program) → Except Failure (List Program)
  | .ok others => .ok (items ++ others)
  | .error failure => if items.isEmpty then .error failure else .ok items

theorem behind_cons (items : List Program) (item : Program)
    (outcome : Except Failure (List Program)) :
    behind (items ++ [item]) outcome = behind items (behind [item] outcome) := by
  cases outcome with
  | ok others => simp [behind]
  | error failure => simp [behind]

/-! ## One more element -/

theorem claims_bind {α : Type} {rest : Claims → Planning α} :
    (claims >>= rest) pass = rest pass.claims pass :=
  rfl

theorem setClaims_bind {α : Type} {wanted : Claims} {rest : Unit → Planning α} :
    (setClaims wanted >>= rest) pass = rest () { pass with claims := wanted } :=
  rfl

theorem attempt_bind {α β : Type} {action : Planning α} {rest : Except Failure α → Planning β} :
    (attempt action >>= rest) pass = rest (action pass).1 (action pass).2 :=
  rfl

theorem repeatElement_kept {item : Program} {limit : Nat}
    (planned : Gives (recurse (site.element env element)) pass (some item) between)
    (claims : pass.claims.count < between.claims.count) :
    repeatElement env recurse site element (limit + 1) pass =
      (behind [item] (repeatElement env recurse site element limit between).1,
        (repeatElement env recurse site element limit between).2) := by
  rw [repeatElement, claims_bind, attempt_bind, planned]
  simp only []
  rw [claims_bind, if_pos claims, attempt_bind]
  cases repeatElement env recurse site element limit between with
  | mk outcome next => cases outcome <;> rfl

theorem repeatElement_fruitless {item : Program} {limit : Nat}
    (planned : Gives (recurse (site.element env element)) pass (some item) between)
    (idle : ¬ pass.claims.count < between.claims.count) :
    repeatElement env recurse site element (limit + 1) pass =
      (.ok [], { between with claims := pass.claims }) := by
  rw [repeatElement, claims_bind, attempt_bind, planned]
  simp only []
  rw [claims_bind, if_neg idle, setClaims_bind]
  rfl

theorem repeatElement_declined {limit : Nat}
    (declines : Gives (recurse (site.element env element)) pass none between) :
    repeatElement env recurse site element (limit + 1) pass =
      (.ok [], { between with claims := pass.claims }) := by
  rw [repeatElement, claims_bind, attempt_bind, declines]
  rfl

theorem repeatElement_failed {failure : Failure} {limit : Nat}
    (fails : Fails (recurse (site.element env element)) pass failure between) :
    repeatElement env recurse site element (limit + 1) pass =
      (.error failure, { between with claims := pass.claims }) := by
  rw [repeatElement, claims_bind, attempt_bind, fails]
  rfl

/-! ## The bound -/

theorem Reliable.claims_new (reliable : Reliable env recurse) {item : Program}
    (sized : pass.claims.length = env.header.length) (fresh : site.existing = none)
    (planned : Gives (recurse site) pass (some item) between)
    (claims : pass.claims.count < between.claims.count) :
    ∃ column, pass.claims.isClaimed column = false ∧ between.claims.isClaimed column = true := by
  have onward := (reliable.new sized fresh planned).block.onward
  obtain ⟨column, claimed, free⟩ := (Claims.count_lt_iff onward.length onward.claims).mp claims
  exact ⟨column, by simpa using free, claimed⟩

theorem repeatElement_loop (reliable : Reliable env recurse) {limit : Nat}
    (sized : pass.claims.length = env.header.length) (enough : pass.claims.free < limit)
    (items : List Program) :
    ElementLoop env recurse site element items pass
      (behind items (repeatElement env recurse site element limit pass).1)
      (repeatElement env recurse site element limit pass).2 := by
  induction limit generalizing pass items with
  | zero => omega
  | succ limit ih =>
      cases computed : recurse (site.element env element) pass with
      | mk outcome between =>
          cases outcome with
          | error failure =>
              rw [repeatElement_failed computed]
              by_cases empty : items = []
              · subst empty
                exact .failed computed
              · simp only [behind, List.isEmpty_iff, if_neg empty]
                exact .stopped computed empty
          | ok found =>
              cases found with
              | none =>
                  rw [repeatElement_declined computed]
                  simp only [behind, List.append_nil]
                  exact .declined computed
              | some item =>
                  by_cases claims : pass.claims.count < between.claims.count
                  · have sizedNext := (reliable.new sized rfl computed).block.onward.length
                    have fewer : between.claims.free < limit := by
                      have before := pass.claims.count_add_free
                      have after := between.claims.count_add_free
                      omega
                    rw [repeatElement_kept computed claims]
                    refine .kept computed claims ?_
                    rw [← behind_cons]
                    exact ih (sizedNext.trans sized) fewer (items ++ [item])
                  · rw [repeatElement_fruitless computed claims]
                    simp only [behind, List.append_nil]
                    exact .fruitless computed claims

/-- The unbounded loop does what the bounded one does, so it ends in one way only. -/
theorem ElementLoop.bounded (reliable : Reliable env recurse) {items : List Program}
    {outcome : Except Failure (List Program)} {limit : Nat}
    (loop : ElementLoop env recurse site element items pass outcome next)
    (sized : pass.claims.length = env.header.length) (enough : pass.claims.free < limit) :
    (behind items (repeatElement env recurse site element limit pass).1,
      (repeatElement env recurse site element limit pass).2) = (outcome, next) := by
  obtain ⟨limit, rfl⟩ := Nat.exists_eq_add_of_lt enough
  induction loop generalizing limit with
  | @kept items item pass between next outcome planned claims rest ih =>
      have sizedNext := (reliable.new sized rfl planned).block.onward.length
      have before := pass.claims.count_add_free
      have after := between.claims.count_add_free
      obtain ⟨more, same⟩ : ∃ more, pass.claims.free + limit = between.claims.free + more + 1 :=
        ⟨pass.claims.free + limit - between.claims.free - 1, by omega⟩
      have later := ih (sizedNext.trans sized) more (by omega)
      rw [repeatElement_kept planned claims, same]
      rw [behind_cons] at later
      exact later
  | fruitless planned idle =>
      rw [repeatElement_fruitless planned idle]
      simp [behind]
  | declined declines =>
      rw [repeatElement_declined declines]
      simp [behind]
  | stopped fails some =>
      rw [repeatElement_failed fails]
      simp [behind, some]
  | failed fails =>
      rw [repeatElement_failed fails]
      rfl

theorem planElements_loop (reliable : Reliable env recurse) (isNode : element.leaf? = none)
    (sized : pass.claims.length = env.header.length)
    {outcome : Except Failure (List Program)} :
    ElementLoop env recurse site element [] pass outcome next ↔
      planElements env recurse site element pass = (outcome, next) := by
  have enough : pass.claims.free < env.header.length + 1 := by
    have total := pass.claims.count_add_free
    omega
  have same : planElements env recurse site element pass =
      (behind [] (repeatElement env recurse site element (env.header.length + 1) pass).1,
        (repeatElement env recurse site element (env.header.length + 1) pass).2) := by
    rw [planElements, isNode]
    simp only []
    cases repeatElement env recurse site element (env.header.length + 1) pass with
    | mk found after => cases found <;> rfl
  rw [same]
  constructor
  · intro loop
    exact loop.bounded reliable sized enough
  · intro ends
    cases ends
    exact repeatElement_loop reliable sized enough []

theorem ElementLoop.length_le (reliable : Reliable env recurse) {items all : List Program}
    {outcome : Except Failure (List Program)}
    (loop : ElementLoop env recurse site element items pass outcome next)
    (sized : pass.claims.length = env.header.length) (ends : outcome = .ok all) :
    all.length ≤ items.length + pass.claims.free := by
  induction loop with
  | @kept items item pass between next outcome planned claims rest ih =>
      have sizedNext := (reliable.new sized rfl planned).block.onward.length
      have later := ih (sizedNext.trans sized) ends
      have before := pass.claims.count_add_free
      have after := between.claims.count_add_free
      rw [List.length_append, List.length_singleton] at later
      omega
  | fruitless planned idle =>
      cases ends
      omega
  | declined declines =>
      cases ends
      omega
  | stopped fails some =>
      cases ends
      omega
  | failed fails => cases ends

end Loop

end Planning

end Unflatten
