import Unflatten.Planning.Strategy

/-!
# Outcomes of planning actions

`Gives action pass value next` says that an action succeeds from `pass` with `value` and leaves the
pass `next`, `Fails` that it fails. A sequence of actions succeeds exactly if each of them does, and
the small actions on passes are computed here once.

Two actions are parallel if they leave the same pass wherever they start and either both fail or
give values that are related. Failures need not be equal: they may name a type in one way or
another.
-/

set_option autoImplicit false

namespace Unflatten

/-- One register further, the claims unchanged. -/
def Pass.advanced (pass : Pass) : Pass :=
  { pass with nextRegister := pass.nextRegister + 1 }

namespace Planning

def Gives {α : Type} (action : Planning α) (pass : Pass) (value : α) (next : Pass) : Prop :=
  action pass = (.ok value, next)

def Fails {α : Type} (action : Planning α) (pass : Pass) (failure : Failure) (next : Pass) : Prop :=
  action pass = (.error failure, next)

theorem gives_of_eq {α : Type} {action : Planning α} {pass next after : Pass} {value result : α}
    (computed : action pass = (.ok value, next)) :
    Gives action pass result after ↔ result = value ∧ after = next := by
  constructor
  · intro given
    have same := computed.symm.trans given
    cases same
    exact ⟨rfl, rfl⟩
  · rintro ⟨rfl, rfl⟩
    exact computed

theorem bind_eq {α β : Type} (first : Planning α) (rest : α → Planning β) (pass : Pass) :
    (first >>= rest) pass =
      match first pass with
      | (.ok middle, between) => rest middle between
      | (.error failure, between) => (.error failure, between) := by
  simp only [bind, ExceptT.bind, ExceptT.mk, StateT.bind, ExceptT.bindCont]
  cases first pass with
  | mk outcome between => cases outcome <;> rfl

theorem gives_bind {α β : Type} {first : Planning α} {rest : α → Planning β} {pass next : Pass}
    {value : β} :
    Gives (first >>= rest) pass value next ↔
      ∃ middle between, Gives first pass middle between ∧
        Gives (rest middle) between value next := by
  simp only [Gives, bind_eq]
  cases found : first pass with
  | mk outcome between =>
      cases outcome with
      | error failure =>
          constructor
          · intro same
            cases same
          · rintro ⟨middle, other, same, _⟩
            cases same
      | ok middle =>
          constructor
          · intro later
            exact ⟨middle, between, rfl, later⟩
          · rintro ⟨other, between, same, later⟩
            cases same
            exact later

theorem fails_bind {α β : Type} {first : Planning α} {rest : α → Planning β} {pass next : Pass}
    {failure : Failure} :
    Fails (first >>= rest) pass failure next ↔
      Fails first pass failure next ∨
        ∃ middle between, Gives first pass middle between ∧
          Fails (rest middle) between failure next := by
  simp only [Gives, Fails, bind_eq]
  cases found : first pass with
  | mk outcome between =>
      cases outcome with
      | error reason =>
          constructor
          · intro same
            cases same
            exact Or.inl rfl
          · rintro (same | ⟨middle, other, same, _⟩)
            · cases same
              rfl
            · cases same
      | ok middle =>
          constructor
          · intro later
            exact Or.inr ⟨middle, between, rfl, later⟩
          · rintro (same | ⟨other, between, same, later⟩)
            · cases same
            · cases same
              exact later

section Primitives

variable {env : Environment} {pass next : Pass}

theorem gives_pure {α : Type} {value result : α} :
    Gives (pure value) pass result next ↔ result = value ∧ next = pass :=
  gives_of_eq rfl

theorem gives_throw {α : Type} {failure : Failure} {result : α} :
    ¬ Gives (throw failure) pass result next := by
  intro given
  cases given

theorem gives_fresh {register : Register} :
    Gives fresh pass register next ↔ register = pass.nextRegister ∧ next = pass.advanced :=
  gives_of_eq rfl

theorem gives_claims {found : Claims} :
    Gives claims pass found next ↔ found = pass.claims ∧ next = pass :=
  gives_of_eq rfl

theorem gives_setClaims {wanted : Claims} {result : Unit} :
    Gives (setClaims wanted) pass result next ↔ next = { pass with claims := wanted } := by
  have computed : setClaims wanted pass = (.ok (), { pass with claims := wanted }) := rfl
  rw [gives_of_eq computed]
  simp

theorem gives_available {scope : Scope} {found : List HeaderColumn} :
    Gives (available env scope) pass found next ↔
      found = env.header.available pass.claims scope ∧ next = pass :=
  gives_of_eq rfl

theorem gives_find? {scope : Scope} {localName : String} {found : Option HeaderColumn} :
    Gives (find? env scope localName) pass found next ↔
      found = env.header.find? pass.claims scope localName ∧ next = pass :=
  gives_of_eq rfl

theorem gives_hasMember {scope : Scope} {name : String} {found : Bool} :
    Gives (hasMember env scope name) pass found next ↔
      found = env.header.hasMember pass.claims scope name env.settings.separator ∧ next = pass :=
  gives_of_eq rfl

theorem gives_isAbsent {site : Site} {found : Bool} :
    Gives (isAbsent env site) pass found next ↔
      found = (!site.isRoot && (env.header.available pass.claims site.scope).isEmpty) ∧
        next = pass :=
  gives_of_eq rfl

theorem gives_view {scope : Scope} {found : View} :
    Gives (view env scope) pass found next ↔
      found = ⟨env.header, pass.claims, scope⟩ ∧ next = pass :=
  gives_of_eq rfl

theorem gives_read {column : HeaderColumn} {leaf : Leaf} {program : Program} :
    Gives (read env column leaf) pass program next ↔
      program =
          Program.single
            (.read ⟨column.index, column.name⟩ (Conversion.select env.rules leaf column.type)
              pass.nextRegister)
            pass.nextRegister ∧
        next = ⟨pass.claims.claim column.index, pass.nextRegister + 1⟩ :=
  gives_of_eq rfl

theorem gives_constant {value : Value} {program : Program} :
    Gives (constant value) pass program next ↔
      program = Program.single (.constant value pass.nextRegister) pass.nextRegister ∧
        next = pass.advanced :=
  gives_of_eq rfl

theorem gives_pack {form : SequenceForm} {items : List Program} {program : Program} :
    Gives (pack form items) pass program next ↔
      program =
          ⟨items.flatMap ProgramOf.steps
              ++ [.pack form (items.map ProgramOf.result) pass.nextRegister],
            pass.nextRegister⟩ ∧
        next = pass.advanced :=
  gives_of_eq rfl

theorem gives_attempt {α : Type} {action : Planning α} {outcome : Except Failure α} :
    Gives (attempt action) pass outcome next ↔
      (∃ value, outcome = .ok value ∧ Gives action pass value next) ∨
        (∃ failure, outcome = .error failure ∧ Fails action pass failure next) := by
  have computed : attempt action pass = (.ok (action pass).1, (action pass).2) := rfl
  rw [gives_of_eq computed]
  simp only [Gives, Fails]
  cases found : action pass with
  | mk first second =>
      constructor
      · rintro ⟨rfl, rfl⟩
        cases outcome with
        | error failure => exact Or.inr ⟨failure, rfl, rfl⟩
        | ok value => exact Or.inl ⟨value, rfl, rfl⟩
      · rintro (⟨value, rfl, same⟩ | ⟨failure, rfl, same⟩)
        · cases same
          exact ⟨rfl, rfl⟩
        · cases same
          exact ⟨rfl, rfl⟩

theorem not_fails {α : Type} {action : Planning α} {value : α} {after : Pass} {failure : Failure}
    (computed : action pass = (.ok value, after)) : ¬ Fails action pass failure next := by
  intro failed
  cases computed.symm.trans failed

theorem gives_chooseConstructor {site : Site} {type : ObjectType} {constructor : Constructor} :
    Gives (chooseConstructor env site type) pass constructor next ↔
      type.chooseConstructor (env.settings.ofType? type.name) ⟨env.header, pass.claims, site.scope⟩
          env.settings = .ok constructor ∧
        next = pass := by
  simp only [chooseConstructor, gives_bind, gives_view]
  constructor
  · rintro ⟨view, between, ⟨rfl, rfl⟩, given⟩
    split at given
    · rename_i chosen found
      obtain ⟨rfl, rfl⟩ := gives_pure.mp given
      exact ⟨found, rfl⟩
    · exact absurd given gives_throw
  · rintro ⟨found, rfl⟩
    refine ⟨_, _, ⟨rfl, rfl⟩, ?_⟩
    rw [found]
    exact gives_pure.mpr ⟨rfl, rfl⟩

theorem gives_planned {action : Planning Program} {result : Option Program} :
    Gives (do pure (some (← action))) pass result next ↔
      ∃ program, result = some program ∧ Gives action pass program next := by
  simp only [gives_bind, gives_pure]
  constructor
  · rintro ⟨program, between, given, rfl, rfl⟩
    exact ⟨program, rfl, given⟩
  · rintro ⟨program, rfl, given⟩
    exact ⟨program, next, given, rfl, rfl⟩

end Primitives

end Planning

/-! ## Parallel actions -/

/-- Both outcomes are failures, or both are values in the relation. -/
inductive Concurs {α β : Type} (related : α → β → Prop) :
    Except Failure α → Except Failure β → Prop where
  | ok {one : α} {other : β} (same : related one other) : Concurs related (.ok one) (.ok other)
  | error (one other : Failure) : Concurs related (.error one) (.error other)

namespace Planning

def Parallel {α β : Type} (related : α → β → Prop) (left : Planning α) (right : Planning β) :
    Prop :=
  ∀ pass, (left pass).2 = (right pass).2 ∧ Concurs related (left pass).1 (right pass).1

/-- Parallel with exactly the same values. -/
abbrev Same {α : Type} (left right : Planning α) : Prop :=
  Parallel Eq left right

namespace Parallel

variable {α β γ δ : Type} {related : α → β → Prop} {final : γ → δ → Prop}
variable {left : Planning α} {right : Planning β}

theorem refl (action : Planning α) : Same action action := by
  intro pass
  refine ⟨rfl, ?_⟩
  cases (action pass).1 with
  | ok value => exact Concurs.ok rfl
  | error failure => exact Concurs.error failure failure

theorem of_eq {left right : Planning α} (same : left = right) : Same left right := by
  subst same
  exact refl left

theorem pure {one : α} {other : β} (same : related one other) :
    Parallel related (Pure.pure one) (Pure.pure other) :=
  fun _ => ⟨rfl, Concurs.ok same⟩

theorem throw (one other : Failure) :
    Parallel related (MonadExcept.throw one) (MonadExcept.throw other) :=
  fun _ => ⟨rfl, Concurs.error one other⟩

theorem bind {first : α → Planning γ} {second : β → Planning δ}
    (parallel : Parallel related left right)
    (continued : ∀ one other, related one other → Parallel final (first one) (second other)) :
    Parallel final (left >>= first) (right >>= second) := by
  intro pass
  obtain ⟨passes, outcomes⟩ := parallel pass
  rw [bind_eq, bind_eq]
  cases leftDone : left pass with
  | mk one between =>
      cases rightDone : right pass with
      | mk other after =>
          rw [leftDone, rightDone] at passes outcomes
          cases outcomes with
          | ok same =>
              simp only at passes ⊢
              rw [passes]
              exact continued _ _ same after
          | error failure another => exact ⟨passes, Concurs.error failure another⟩

theorem bindSame {left right : Planning α} {first second : α → Planning γ}
    {final : γ → γ → Prop} (parallel : Same left right)
    (continued : ∀ value, Parallel final (first value) (second value)) :
    Parallel final (left >>= first) (right >>= second) :=
  bind parallel fun one other same => by
    subst same
    exact continued one

theorem branch {condition : Prop} [Decidable condition] {secondLeft : Planning α}
    {secondRight : Planning β} (first : Parallel related left right)
    (second : Parallel related secondLeft secondRight) :
    Parallel related (if condition then left else secondLeft)
      (if condition then right else secondRight) := by
  split
  · exact first
  · exact second

theorem attempt (parallel : Parallel related left right) :
    Parallel (Concurs related) (Planning.attempt left) (Planning.attempt right) :=
  fun pass => ⟨(parallel pass).1, Concurs.ok (parallel pass).2⟩

theorem orRelease {left right : Planning (Option Program)} (parallel : Same left right) :
    Same (Planning.orRelease left) (Planning.orRelease right) := by
  refine bindSame (refl Planning.claims) fun before => bindSame parallel fun found => ?_
  cases found with
  | some program => exact pure rfl
  | none => exact refl _

end Parallel

end Planning

end Unflatten
