import Unflatten.Proofs.Planning.Scopes
import Unflatten.Proofs.Program.Renaming

/-!
# Planning is local

What is planned at a site depends on the claims on the columns that its scope covers and on nothing
else: from another pass that has claimed the same of these columns, the same programs are planned
with other registers, and claims on other columns stay as they are.
-/

set_option autoImplicit false

namespace Unflatten

/-- The other pass gives out registers so much further on, and has claimed the same of the columns
that the scope covers. -/
structure Pass.Agree (env : Environment) (scope : Scope) (offset : Nat) (pass other : Pass) :
    Prop where
  registers : other.nextRegister = pass.nextRegister + offset
  sized : pass.claims.length = env.header.length
  otherSized : other.claims.length = env.header.length
  claims : Claims.AgreeWithin env.header scope pass.claims other.claims

def Site.moved (offset : Nat) (site : Site) : Site :=
  { site with existing := site.existing.map (Register.further offset) }

namespace Pass.Agree

variable {env : Environment} {scope inner : Scope} {offset : Nat} {pass other : Pass}

theorem mono (agree : pass.Agree env scope offset other)
    (inside : Scope.Inside env.header inner scope) : pass.Agree env inner offset other :=
  ⟨agree.registers, agree.sized, agree.otherSized, agree.claims.mono inside⟩

theorem advanced (agree : pass.Agree env scope offset other) :
    pass.advanced.Agree env scope offset other.advanced := by
  refine ⟨?_, agree.sized, agree.otherSized, agree.claims⟩
  rw [Pass.advanced, Pass.advanced, agree.registers]
  exact Nat.add_right_comm _ _ _

end Pass.Agree

namespace Planning

/-- The action on the right does from its pass what the one on the left does. -/
structure LocalAt {α β : Type} (env : Environment) (scope : Scope) (offset : Nat)
    (related : α → β → Prop) (left : Planning α) (right : Planning β) (pass other : Pass) :
    Prop where
  outcomes : Mirrors related (left pass).1 (right other).1
  agree : (left pass).2.Agree env scope offset (right other).2
  here : Claims.AgreeOutside env.header scope pass.claims (left pass).2.claims
  there : Claims.AgreeOutside env.header scope other.claims (right other).2.claims

abbrev IsMoved (offset : Nat) (one other : Program) : Prop :=
  other = one.moved offset

abbrev AreMoved (offset : Nat) (items others : List Program) : Prop :=
  others = items.map (Program.moved offset)

abbrev MayBeMoved (offset : Nat) (found another : Option Program) : Prop :=
  another = found.map (Program.moved offset)

abbrev StepsMoved (offset : Nat) (steps others : List Step) : Prop :=
  others = renameSteps (Register.further offset) steps

/-- The planner plans locally at every site. -/
def Local (env : Environment) (offset : Nat) (planner : Planner) : Prop :=
  ∀ (site : Site) (pass other : Pass), pass.Agree env site.scope offset other →
    LocalAt env site.scope offset (MayBeMoved offset) (planner site) (planner (site.moved offset))
      pass other

variable {env : Environment} {scope inner : Scope} {offset : Nat} {pass other : Pass}

namespace LocalAt

variable {α β γ δ : Type} {related : α → β → Prop} {final : γ → δ → Prop}
variable {left : Planning α} {right : Planning β}

theorem pure {one : α} {another : β} (same : related one another)
    (agree : pass.Agree env scope offset other) :
    LocalAt env scope offset related (Pure.pure one) (Pure.pure another) pass other :=
  ⟨Mirrors.ok same, agree, Claims.AgreeOutside.refl, Claims.AgreeOutside.refl⟩

theorem throw (failure : Failure) (agree : pass.Agree env scope offset other) :
    LocalAt env scope offset related (MonadExcept.throw failure) (MonadExcept.throw failure) pass
      other :=
  ⟨Mirrors.error failure, agree, Claims.AgreeOutside.refl, Claims.AgreeOutside.refl⟩

theorem bind {first : α → Planning γ} {second : β → Planning δ}
    (local_ : LocalAt env scope offset related left right pass other)
    (rest : ∀ one another between after, related one another → Gives left pass one between →
      Gives right other another after → between.Agree env scope offset after →
      LocalAt env scope offset final (first one) (second another) between after) :
    LocalAt env scope offset final (left >>= first) (right >>= second) pass other := by
  obtain ⟨outcomes, agree, here, there⟩ := local_
  cases leftDone : left pass with
  | mk one between =>
      cases rightDone : right other with
      | mk another after =>
          have leftBound := bind_eq left first pass
          have rightBound := bind_eq right second other
          rw [leftDone] at outcomes agree here leftBound
          rw [rightDone] at outcomes agree there rightBound
          cases outcomes with
          | error failure =>
              refine ⟨?_, ?_, ?_, ?_⟩
              · rw [leftBound, rightBound]
                exact Mirrors.error failure
              · rw [leftBound, rightBound]
                exact agree
              · rw [leftBound]
                exact here
              · rw [rightBound]
                exact there
          | ok same =>
              have later := rest _ _ between after same leftDone rightDone agree
              refine ⟨?_, ?_, ?_, ?_⟩
              · rw [leftBound, rightBound]
                exact later.outcomes
              · rw [leftBound, rightBound]
                exact later.agree
              · rw [leftBound]
                exact here.trans later.here
              · rw [rightBound]
                exact there.trans later.there

theorem here_given (local_ : LocalAt env scope offset related left right pass other) {one : α}
    {between : Pass} (given : Gives left pass one between) :
    Claims.AgreeOutside env.header scope pass.claims between.claims := by
  have here := local_.here
  rwa [given] at here

theorem there_given (local_ : LocalAt env scope offset related left right pass other)
    {another : β} {after : Pass} (given : Gives right other another after) :
    Claims.AgreeOutside env.header scope other.claims after.claims := by
  have there := local_.there
  rwa [given] at there

theorem gives_left (local_ : LocalAt env scope offset related left right pass other) {another : β}
    {after : Pass} (given : Gives right other another after) :
    ∃ one between, Gives left pass one between ∧ related one another ∧
      between.Agree env scope offset after := by
  obtain ⟨outcomes, agree, -, -⟩ := local_
  rw [given] at outcomes agree
  cases leftDone : left pass with
  | mk outcome between =>
      rw [leftDone] at outcomes agree
      cases outcomes with
      | ok same => exact ⟨_, between, leftDone, same, agree⟩

theorem gives_right (local_ : LocalAt env scope offset related left right pass other) {one : α}
    {between : Pass} (given : Gives left pass one between) :
    ∃ another after, Gives right other another after ∧ related one another ∧
      between.Agree env scope offset after := by
  obtain ⟨outcomes, agree, -, -⟩ := local_
  rw [given] at outcomes agree
  cases rightDone : right other with
  | mk outcome after =>
      rw [rightDone] at outcomes agree
      cases outcomes with
      | ok same => exact ⟨_, after, rightDone, same, agree⟩

theorem congr {left again : Planning α} {right anew : Planning β}
    (local_ : LocalAt env scope offset related left right pass other)
    (sameLeft : again pass = left pass) (sameRight : anew other = right other) :
    LocalAt env scope offset related again anew pass other := by
  obtain ⟨outcomes, agree, here, there⟩ := local_
  rw [← sameLeft] at outcomes agree here
  rw [← sameRight] at outcomes agree there
  exact ⟨outcomes, agree, here, there⟩

theorem claims {first : Claims → Planning γ} {second : Claims → Planning δ}
    (rest : LocalAt env scope offset final (first pass.claims) (second other.claims) pass other) :
    LocalAt env scope offset final (Planning.claims >>= first) (Planning.claims >>= second) pass
      other :=
  rest.congr (bind_eq _ _ _) (bind_eq _ _ _)

theorem widen (local_ : LocalAt env inner offset related left right pass other)
    (agree : pass.Agree env scope offset other) (inside : Scope.Inside env.header inner scope) :
    LocalAt env scope offset related left right pass other := by
  obtain ⟨outcomes, within, here, there⟩ := local_
  refine ⟨outcomes, ⟨within.registers, within.sized, within.otherSized, ?_⟩,
    here.mono inside, there.mono inside⟩
  intro column member covers
  by_cases covered : inner.Covers column
  · exact within.claims column member covered
  · rw [there column member covered, here column member covered]
    exact agree.claims column member covers

theorem branch {condition : Prop} [Decidable condition] {secondLeft : Planning α}
    {secondRight : Planning β} (first : LocalAt env scope offset related left right pass other)
    (second : LocalAt env scope offset related secondLeft secondRight pass other) :
    LocalAt env scope offset related (if condition then left else secondLeft)
      (if condition then right else secondRight) pass other := by
  split
  · exact first
  · exact second

theorem attempt (local_ : LocalAt env scope offset related left right pass other) :
    LocalAt env scope offset (Mirrors related) (Planning.attempt left) (Planning.attempt right)
      pass other :=
  ⟨Mirrors.ok local_.outcomes, local_.agree, local_.here, local_.there⟩

theorem setClaims {claims others : Claims} (agree : pass.Agree env scope offset other)
    (sized : claims.length = env.header.length) (otherSized : others.length = env.header.length)
    (within : Claims.AgreeWithin env.header scope claims others)
    (here : Claims.AgreeOutside env.header scope pass.claims claims)
    (there : Claims.AgreeOutside env.header scope other.claims others) :
    LocalAt env scope offset (fun _ _ => True) (Planning.setClaims claims)
      (Planning.setClaims others) pass other :=
  ⟨Mirrors.ok trivial, ⟨agree.registers, sized, otherSized, within⟩, here, there⟩

end LocalAt

/-! ## Small actions -/

section Primitives

variable (agree : pass.Agree env scope offset other)
include agree

theorem fresh_local :
    LocalAt env scope offset (fun one another => another = one + offset) fresh fresh pass other :=
  ⟨Mirrors.ok agree.registers, agree.advanced, Claims.AgreeOutside.refl, Claims.AgreeOutside.refl⟩

theorem available_local :
    LocalAt env scope offset Eq (available env scope) (available env scope) pass other :=
  ⟨Mirrors.ok (Header.available_congr agree.claims).symm, agree, Claims.AgreeOutside.refl,
    Claims.AgreeOutside.refl⟩

theorem find?_local (localName : String) :
    LocalAt env scope offset Eq (find? env scope localName) (find? env scope localName) pass
      other :=
  ⟨Mirrors.ok (Header.find?_congr agree.claims localName).symm, agree, Claims.AgreeOutside.refl,
    Claims.AgreeOutside.refl⟩

theorem hasMember_local (name : String) :
    LocalAt env scope offset Eq (hasMember env scope name) (hasMember env scope name) pass other :=
  ⟨Mirrors.ok (Header.hasMember_congr agree.claims name _).symm, agree, Claims.AgreeOutside.refl,
    Claims.AgreeOutside.refl⟩

theorem isAbsent_local {site : Site} (isScope : site.scope = scope) :
    LocalAt env scope offset Eq (isAbsent env site) (isAbsent env (site.moved offset)) pass
      other := by
  subst isScope
  refine (available_local agree).bind ?_
  rintro columns - between after rfl - - agree
  exact LocalAt.pure rfl agree

theorem constant_local (value : Value) :
    LocalAt env scope offset (IsMoved offset) (constant value) (constant value) pass other := by
  refine (fresh_local agree).bind ?_
  rintro into - between after rfl - - agree
  refine LocalAt.pure ?_ agree
  rw [IsMoved, Program.moved_single, Step.rename]
  rfl

theorem pack_local (form : SequenceForm) (items : List Program) :
    LocalAt env scope offset (IsMoved offset) (pack form items)
      (pack form (items.map (Program.moved offset))) pass other := by
  refine (fresh_local agree).bind ?_
  rintro into - between after rfl - - agree
  refine LocalAt.pure ?_ agree
  have results : (items.map (Program.moved offset)).map ProgramOf.result =
      (items.map ProgramOf.result).map (Register.further offset) := by
    rw [List.map_map, List.map_map]
    exact List.map_congr_left fun item _ => renameProgram_result _ item
  rw [IsMoved, Program.moved, renameProgram, renameSteps_append, renameSteps_flatMap,
    renameSteps_cons, renameSteps_nil, Step.rename, results]
  rfl

theorem read_local (indexed : env.header.WellIndexed) {column : HeaderColumn}
    (member : column ∈ env.header) (covers : scope.Covers column) (leaf : Leaf) :
    LocalAt env scope offset (IsMoved offset) (read env column leaf) (read env column leaf) pass
      other := by
  have apart {another : HeaderColumn} (isColumn : another ∈ env.header)
      (uncovered : ¬ scope.Covers another) : another.index ≠ column.index := by
    intro same
    rw [List.inj_on_of_nodup_map indexed.nodup isColumn member same] at uncovered
    exact uncovered covers
  have claimed {claims : Claims} (sized : claims.length = env.header.length) (index : Nat) :
      (claims.claim column.index).isClaimed index =
        if index = column.index then true else claims.isClaimed index := by
    have inside : column.index < claims.length := sized ▸ indexed.inside member
    rw [Bool.eq_iff_iff, Claims.isClaimed_claim inside]
    by_cases same : index = column.index
    · simp [same]
    · simp [same]
  have claims := LocalAt.setClaims agree (Claims.length_claim.trans agree.sized)
    (Claims.length_claim.trans agree.otherSized)
    (fun another isColumn covered => by
      have same := agree.claims another isColumn covered
      rw [claimed agree.sized, claimed agree.otherSized, same])
    (fun another isColumn uncovered => by
      rw [claimed agree.sized, if_neg (apart isColumn uncovered)])
    (fun another isColumn uncovered => by
      rw [claimed agree.otherSized, if_neg (apart isColumn uncovered)])
  refine LocalAt.claims (claims.bind ?_)
  · rintro - - between after - - - agree
    refine (fresh_local agree).bind ?_
    rintro into - between after rfl - - agree
    refine LocalAt.pure ?_ agree
    rw [IsMoved, Program.moved_single, Step.rename]
    rfl

end Primitives

/-! ## Leaves -/

section Leaves

variable (indexed : env.header.WellIndexed)
include indexed

theorem readAll_local {columns : List HeaderColumn} (leaf : Leaf)
    (within : ∀ column ∈ columns, column ∈ env.header ∧ scope.Covers column)
    (agree : pass.Agree env scope offset other) :
    LocalAt env scope offset (AreMoved offset) (readAll env leaf columns) (readAll env leaf columns)
      pass other := by
  induction columns generalizing pass other with
  | nil => exact LocalAt.pure rfl agree
  | cons column rest ih =>
      obtain ⟨member, covers⟩ := within column (by simp)
      refine (read_local agree indexed member covers leaf).bind ?_
      rintro first - between after rfl - - agree
      refine (ih (fun column isRest => within column (by simp [isRest])) agree).bind ?_
      rintro others - between after rfl - - agree
      exact LocalAt.pure rfl agree

theorem readGroup_local {group : Namesakes} (leaf : Leaf)
    (within : ∀ column ∈ group.columns, column ∈ env.header ∧ scope.Covers column)
    (agree : pass.Agree env scope offset other) :
    LocalAt env scope offset (IsMoved offset) (readGroup env leaf group) (readGroup env leaf group)
      pass other := by
  refine (readAll_local indexed leaf within agree).bind ?_
  rintro items - between after rfl - - agree
  match items with
  | [] => exact pack_local agree .array []
  | [item] => exact LocalAt.pure rfl agree
  | first :: second :: rest => exact pack_local agree .array (first :: second :: rest)

theorem insertGroups_local {groups : List Namesakes} (leaf : Leaf) (type : Option DictionaryType)
    (target : Register)
    (within : ∀ group ∈ groups, ∀ column ∈ group.columns,
      column ∈ env.header ∧ scope.Covers column)
    (agree : pass.Agree env scope offset other) :
    LocalAt env scope offset (StepsMoved offset) (insertGroups env leaf type target groups)
      (insertGroups env leaf type (target + offset) groups) pass other := by
  induction groups generalizing pass other with
  | nil => exact LocalAt.pure (renameSteps_nil _).symm agree
  | cons group rest ih =>
      refine (readGroup_local indexed leaf (within group (by simp)) agree).bind ?_
      rintro item - between after rfl - - agree
      refine (ih (fun group isRest => within group (by simp [isRest])) agree).bind ?_
      rintro others - between after rfl - - agree
      refine LocalAt.pure ?_ agree
      rw [StepsMoved, renameSteps_append, renameSteps_cons, Step.rename, Program.moved,
        renameProgram_steps, renameProgram_result]
      rfl

end Leaves

end Planning

end Unflatten
