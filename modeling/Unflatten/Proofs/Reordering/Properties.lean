import Mathlib.Data.List.Find
import Unflatten.Proofs.Planning.LocalObjects
import Unflatten.Proofs.Program.FieldChanges
import Unflatten.Proofs.Program.Meanings
import Unflatten.Proofs.Updates.Completeness

/-!
# Properties in another order

At the root a property sees the columns of its own member only. Where no name contains the separator
these are different columns for different names, so two properties in a row may change places: each
claims the same columns as before, and what the one sets is not looked at by the other.
-/

set_option autoImplicit false

namespace Unflatten

/-! ## Members that share no columns -/

/-- No column is covered by both. -/
def Scope.Apart (scope : Scope) (header : Header) (other : Scope) : Prop :=
  ∀ column ∈ header, scope.Covers column → ¬ other.Covers column

namespace Scope

variable {header : Header} {scope other : Scope} {separator name another : String} {mark : Char}
variable {column : HeaderColumn}

theorem Apart.symm (apart : scope.Apart header other) : other.Apart header scope :=
  fun column member covers covered => apart column member covered covers

theorem root_member_segment (isMark : (foldName separator).toList = [mark])
    (plain : mark ∉ (foldName name).toList) (covers : (root.member name separator).Covers column) :
    column.folded.toList.takeWhile (fun c => c ≠ mark) = (foldName name).toList := by
  have kept : ∀ c ∈ (foldName name).toList, decide (c ≠ mark) = true := by
    intro c member
    rw [decide_eq_true_eq]
    rintro rfl
    exact plain member
  rcases root_member_covers.mp covers with same | starts
  · rw [same]
    exact List.takeWhile_eq_self_iff.mpr kept
  · rw [Text.startsWith, List.isPrefixOf_iff_prefix, String.toList_append, isMark] at starts
    obtain ⟨rest, same⟩ := starts
    rw [← same, List.append_assoc, List.takeWhile_append_of_pos kept]
    simp

theorem root_members_apart (header : Header) (isMark : (foldName separator).toList = [mark])
    (plain : mark ∉ (foldName name).toList) (plainOther : mark ∉ (foldName another).toList)
    (differs : foldName name ≠ foldName another) :
    (root.member name separator).Apart header (root.member another separator) := by
  intro column _ covers covered
  have first := root_member_segment isMark plain covers
  have second := root_member_segment isMark plainOther covered
  exact differs (String.toList_inj.mp (first.symm.trans second))

end Scope

theorem Claims.AgreeOutside.within {header : Header} {scope other : Scope} {claims others : Claims}
    (outside : AgreeOutside header other claims others) (apart : scope.Apart header other) :
    AgreeWithin header scope claims others :=
  fun column member covers => outside column member (apart column member covers)

theorem Claims.same_of_swapped {header : Header} {scope other : Scope}
    {start middle between next last : Claims} (apart : scope.Apart header other)
    (first : AgreeOutside header scope start middle)
    (second : AgreeOutside header other start between)
    (secondLater : AgreeOutside header other middle next)
    (firstLater : AgreeOutside header scope between last)
    (sameFirst : AgreeWithin header scope middle last)
    (sameSecond : AgreeWithin header other between next) :
    ∀ column ∈ header, last.isClaimed column.index = next.isClaimed column.index := by
  intro column member
  by_cases covers : scope.Covers column
  · rw [sameFirst column member covers,
      secondLater column member (apart column member covers)]
  · rw [firstLater column member covers]
    by_cases covered : other.Covers column
    · exact (sameSecond column member covered).symm
    · rw [second column member covered, secondLater column member covered,
        first column member covers]

theorem Pass.Agree.refl {env : Environment} {scope : Scope} {pass : Pass}
    (sized : pass.claims.length = env.header.length) : pass.Agree env scope 0 pass :=
  ⟨rfl, sized, sized, fun _ _ _ => rfl⟩

/-- Their names differ by more than letter case and their members share no columns. -/
structure PropertyOf.Apart (separator : String) (one other : Property) : Prop where
  names : Text.equalIgnoringCase one.name other.name = false
  scopes : ∀ header, (Scope.root.member one.name separator).Apart header
    (Scope.root.member other.name separator)

theorem PropertyOf.Apart.symm {separator : String} {one other : Property}
    (apart : PropertyOf.Apart separator one other) : PropertyOf.Apart separator other one :=
  ⟨(Text.equalIgnoringCase_comm _ _).trans apart.names, fun header => (apart.scopes header).symm⟩

theorem Header.find?_member {header : Header} {claims others : Claims} {name separator : String}
    (agree : Claims.AgreeWithin header (Scope.root.member name separator) claims others) :
    header.find? others .root (foldName name) = header.find? claims .root (foldName name) := by
  rw [Header.find?, Header.find?, available, available, List.find?_filter, List.find?_filter]
  refine List.find?_congr fun column member => ?_
  rw [Scope.root_nameWithin]
  by_cases named : column.folded = foldName name
  · rw [agree column member (Scope.root_member_covers.mpr (Or.inl named))]
  · simp [named]

theorem Claims.ext {header : Header} {claims others : Claims} (indexed : header.WellIndexed)
    (sized : claims.length = header.length) (otherSized : others.length = header.length)
    (same : ∀ column ∈ header, others.isClaimed column.index = claims.isClaimed column.index) :
    others = claims := by
  refine List.ext_getElem (otherSized.trans sized.symm) fun index inside inClaims => ?_
  have isIndex : index ∈ header.map HeaderColumn.index := by
    rw [indexed, List.mem_range, ← sized]
    exact inClaims
  obtain ⟨column, member, rfl⟩ := List.mem_map.mp isIndex
  have equal := same column member
  rw [isClaimed, isClaimed, List.getElem?_eq_getElem inside, List.getElem?_eq_getElem inClaims]
    at equal
  exact equal

namespace Planning

/-! ## One property -/

/-- What a property is set to, with the register of its present value where that may be updated. -/
def planProperty (env : Environment) (recurse : Planner) (site : Site) (property : Property) :
    Planning (Option (Option Register × Program)) :=
  match property.target.leaf?.filter fun leaf => !leaf.isAny with
  | some leaf => do
    match ← find? env site.scope (foldName property.name) with
    | some column => pure (some (none, ← read env column leaf))
    | none => pure none
  | none => do
    let existing ← fresh
    let found ← recurse (site.member env property.name property.target (some existing))
    pure (found.map fun value => (some existing, value))

/-- The target keeps what it has if nothing was found. -/
def settingSteps (target : Register) (field : String) :
    Option (Option Register × Program) → List Step
  | none => []
  | some (none, value) => setSteps target field (some value)
  | some (some existing, value) =>
    .project target field existing :: setSteps target field (some value)

/-- What was found, with its registers so much further on. -/
def settingMoved (offset : Nat) (setting : Option Register × Program) :
    Option Register × Program :=
  (setting.1.map (Register.further offset), setting.2.moved offset)

variable {env : Environment} {recurse : Planner} {site : Site} {row : Row}
variable {pass other middle between next after : Pass} {target : Register} {offset : Nat}
variable {property : Property} {found : Option (Option Register × Program)}

theorem setProperty_eq (env : Environment) (recurse : Planner) (site : Site) (target : Register)
    (property : Property) :
    setProperty env recurse site target property =
      (do pure (settingSteps target property.name (← planProperty env recurse site property))) := by
  unfold setProperty planProperty
  cases property.target.leaf?.filter fun leaf => !leaf.isAny with
  | some leaf =>
      dsimp only
      rw [bind_assoc]
      congr 1
      funext column?
      cases column? with
      | none => rfl
      | some column => simp [settingSteps]
  | none =>
      simp only [bind_assoc, pure_bind]
      congr 1
      funext existing
      congr 1
      funext found
      cases found with
      | none => rfl
      | some value => rfl

theorem gives_setProperty {steps : List Step} :
    Gives (setProperty env recurse site target property) pass steps next ↔
      ∃ found, Gives (planProperty env recurse site property) pass found next ∧
        steps = settingSteps target property.name found := by
  rw [setProperty_eq, gives_bind]
  constructor
  · rintro ⟨found, middle, planned, given⟩
    obtain ⟨rfl, rfl⟩ := gives_pure.mp given
    exact ⟨found, planned, rfl⟩
  · rintro ⟨found, planned, rfl⟩
    exact ⟨found, next, planned, gives_pure.mpr ⟨rfl, rfl⟩⟩

theorem planProperty_local (indexed : env.header.WellIndexed) (recursing : Local env offset recurse)
    (isRoot : site.scope = .root)
    (agree : pass.Agree env (Scope.root.member property.name env.settings.separator) offset other) :
    LocalAt env (Scope.root.member property.name env.settings.separator) offset
      (fun found another => another = found.map (settingMoved offset))
      (planProperty env recurse site property) (planProperty env recurse site property) pass
      other := by
  unfold planProperty
  cases property.target.leaf?.filter fun leaf => !leaf.isAny with
  | some leaf =>
      have finds : LocalAt env (Scope.root.member property.name env.settings.separator) offset Eq
          (find? env site.scope (foldName property.name))
          (find? env site.scope (foldName property.name)) pass other := by
        refine ⟨Mirrors.ok ?_, agree, Claims.AgreeOutside.refl, Claims.AgreeOutside.refl⟩
        rw [isRoot]
        exact (Header.find?_member agree.claims).symm
      refine finds.bind ?_
      rintro column? _ between after rfl found - agree
      obtain ⟨isFound, -⟩ := gives_find?.mp found
      rw [isRoot] at isFound
      cases column? with
      | none => exact LocalAt.pure rfl agree
      | some column =>
          obtain ⟨member, named⟩ := Header.find?_folded isFound.symm
          have covers : (Scope.root.member property.name env.settings.separator).Covers column :=
            Scope.root_member_covers.mpr (Or.inl named)
          refine (read_local agree indexed member covers leaf).bind ?_
          rintro program - between after rfl - - agree
          exact LocalAt.pure rfl agree
  | none =>
      refine (fresh_local agree).bind ?_
      rintro existing - between after rfl - - agree
      have isMember : (site.member env property.name property.target (some existing)).scope =
          Scope.root.member property.name env.settings.separator := by
        rw [Site.member, isRoot]
      rw [← isMember] at agree ⊢
      refine (recursing _ between after agree).bind ?_
      rintro found - between after rfl - - agree
      refine LocalAt.pure ?_ agree
      cases found with
      | none => rfl
      | some value => rfl

theorem planProperty_planned {existing : Option Register} {value : Program}
    (indexed : env.header.WellIndexed) (reliable : Reliable env recurse)
    (sized : pass.claims.length = env.header.length)
    (given : Gives (planProperty env recurse site property) pass (some (existing, value)) next) :
    (existing = none ∧ Planned none pass value next) ∨
      (existing = some pass.nextRegister ∧
        Planned (some pass.nextRegister) pass.advanced value next) := by
  unfold planProperty at given
  split at given
  · rename_i leaf isLeaf
    simp only [gives_bind, gives_find?] at given
    obtain ⟨column?, between, ⟨rfl, rfl⟩, given⟩ := given
    split at given
    · rename_i column isFound
      simp only [gives_bind, gives_pure] at given
      obtain ⟨_, after, reads, same, rfl⟩ := given
      cases same
      exact Or.inl ⟨rfl, (read_planned (Header.find?_unclaimed indexed sized isFound) reads).1⟩
    · obtain ⟨impossible, -⟩ := gives_pure.mp given
      cases impossible
  · simp only [gives_bind, gives_fresh, gives_pure] at given
    obtain ⟨_, between, ⟨rfl, rfl⟩, made, after, planned, same, rfl⟩ := given
    obtain ⟨value, rfl, same⟩ := Option.map_eq_some_iff.mp same.symm
    cases same
    have sized : pass.advanced.claims.length = env.header.length := sized
    exact Or.inr ⟨rfl, reliable.plans sized
      (Register.known_existing rfl (Nat.lt_succ_self _)) planned⟩

theorem settingSteps_changes (row : Row) (indexed : env.header.WellIndexed)
    (reliable : Reliable env recurse) (sized : pass.claims.length = env.header.length)
    (otherSized : other.claims.length = env.header.length)
    (starts : other.nextRegister = pass.nextRegister + offset)
    (ends : after.nextRegister = next.nextRegister + offset)
    (known : target < pass.nextRegister)
    (given : Gives (planProperty env recurse site property) pass found next)
    (again : Gives (planProperty env recurse site property) other
      (found.map (settingMoved offset)) after) :
    ∃ change : FieldChange, change.name = property.name ∧
      Changes row target pass (settingSteps target property.name found) next change.apply ∧
      Changes row target other
        (settingSteps target property.name (found.map (settingMoved offset))) after
        change.apply := by
  have stillKnown : target < other.nextRegister := by
    rw [starts]
    exact Nat.lt_of_lt_of_le known (Nat.le_add_right _ _)
  rcases found with _ | ⟨existing, value⟩
  · exact ⟨⟨property.name, none⟩, rfl, Changes.nil, Changes.nil⟩
  · rcases planProperty_planned indexed reliable sized given with ⟨rfl, planned⟩ | ⟨rfl, planned⟩
    · rcases planProperty_planned indexed reliable otherSized again with
        ⟨-, plannedAgain⟩ | ⟨impossible, -⟩
      · obtain ⟨meaning, means⟩ := planned.exists_means row
        have meansAgain := means.moved planned starts ends
        exact ⟨⟨property.name, some fun _ => meaning .null⟩, rfl,
          Changes.assigned planned means known,
          Changes.assigned plannedAgain meansAgain stillKnown⟩
      · cases impossible
    · rcases planProperty_planned indexed reliable otherSized again with
        ⟨impossible, -⟩ | ⟨same, plannedAgain⟩
      · cases impossible
      · obtain ⟨meaning, means⟩ := planned.exists_means row
        have startsLater : other.advanced.nextRegister = pass.advanced.nextRegister + offset := by
          rw [Pass.advanced, Pass.advanced, starts]
          exact Nat.add_right_comm _ _ _
        have meansAgain := means.moved planned startsLater ends
        rw [Option.map_some, Register.further, ← starts] at meansAgain
        refine ⟨⟨property.name, some meaning⟩, rfl, Changes.projected planned means known, ?_⟩
        have steps : settingSteps target property.name
            ((some (some pass.nextRegister, value)).map (settingMoved offset)) =
            .project target property.name other.nextRegister ::
              ((value.moved offset).steps ++
                [.assign target property.name (value.moved offset).result]) := by
          rw [starts]
          rfl
        rw [steps]
        exact Changes.projected plannedAgain meansAgain stillKnown

/-! ## Two properties -/

section Pairs

variable {one two : Property} {left right : List Step}
variable (indexed : env.header.WellIndexed) (reliable : Reliable env recurse)
variable (recursing : ∀ offset, Local env offset recurse) (isRoot : site.scope = .root)
include indexed reliable recursing isRoot

/-- Two properties that share no columns may change places. -/
theorem setProperty_swap (row : Row) (apart : PropertyOf.Apart env.settings.separator one two)
    (sized : pass.claims.length = env.header.length) (known : target < pass.nextRegister)
    (first : Gives (setProperty env recurse site target one) pass left middle)
    (second : Gives (setProperty env recurse site target two) middle right next) :
    ∃ rightAgain between leftAgain,
      Gives (setProperty env recurse site target two) pass rightAgain between ∧
      Gives (setProperty env recurse site target one) between leftAgain next ∧
      Program.Alike row pass next ⟨left ++ right, target⟩ ⟨rightAgain ++ leftAgain, target⟩ := by
  have block := setProperty_planned indexed reliable sized known first
  have sizedMiddle := block.onward.length.trans sized
  have knownMiddle := Nat.lt_of_lt_of_le known block.onward.registers
  have later := setProperty_planned indexed reliable sizedMiddle knownMiddle second
  obtain ⟨ahead, isAhead⟩ := Nat.exists_eq_add_of_le block.onward.registers
  obtain ⟨foundOne, plansOne, rfl⟩ := gives_setProperty.mp first
  obtain ⟨foundTwo, plansTwo, rfl⟩ := gives_setProperty.mp second
  -- The first has not touched the columns of the second.
  have outsideOne := (planProperty_local indexed (recursing 0) isRoot
    (Pass.Agree.refl sized)).here_given plansOne
  have besideTwo := planProperty_local indexed (recursing ahead) isRoot
    ⟨isAhead, sized, sizedMiddle, outsideOne.within (apart.scopes env.header).symm⟩
  obtain ⟨foundAgain, between, plansAgain, rfl, agreeTwo⟩ := besideTwo.gives_left plansTwo
  have outsideTwo := besideTwo.here_given plansAgain
  have blockAgain := setProperty_planned indexed reliable sized known
    (gives_setProperty.mpr ⟨_, plansAgain, rfl⟩)
  have sizedBetween := blockAgain.onward.length.trans sized
  obtain ⟨behind, isBehind⟩ := Nat.exists_eq_add_of_le blockAgain.onward.registers
  -- So the first finds its columns behind the second as it did before.
  have besideOne := planProperty_local indexed (recursing behind) isRoot
    ⟨isBehind, sized, sizedBetween, outsideTwo.within (apart.scopes env.header)⟩
  obtain ⟨_, last, plansLast, rfl, agreeOne⟩ := besideOne.gives_right plansOne
  have outsideLast := besideOne.there_given plansLast
  have outsideNext := besideTwo.there_given plansTwo
  have isLast : last = next := by
    have registers : last.nextRegister = next.nextRegister := by
      rw [agreeOne.registers, agreeTwo.registers, isAhead, isBehind]
      exact Nat.add_right_comm _ _ _
    have claims : last.claims = next.claims :=
      Claims.ext indexed agreeTwo.otherSized agreeOne.otherSized
        (Claims.same_of_swapped (apart.scopes env.header) outsideOne outsideTwo outsideNext
          outsideLast agreeOne.claims agreeTwo.claims)
    obtain ⟨claimed, register⟩ := last
    subst registers claims
    rfl
  subst isLast
  obtain ⟨changeOne, nameOne, changesOne, changesLast⟩ := settingSteps_changes row indexed reliable
    sized sizedBetween isBehind agreeOne.registers known plansOne plansLast
  obtain ⟨changeTwo, nameTwo, changesAgain, changesTwo⟩ := settingSteps_changes row indexed reliable
    sized sizedMiddle isAhead agreeTwo.registers known plansAgain plansTwo
  refine ⟨_, between, _, gives_setProperty.mpr ⟨_, plansAgain, rfl⟩,
    gives_setProperty.mpr ⟨_, plansLast, rfl⟩, ?_⟩
  have commutes : Text.equalIgnoringCase changeOne.name changeTwo.name = false := by
    rw [nameOne, nameTwo]
    exact apart.names
  have inOrder := changesOne.append block later.onward.registers changesTwo
  have inTurn := changesAgain.append blockAgain
    (setProperty_planned indexed reliable sizedBetween
      (Nat.lt_of_lt_of_le known blockAgain.onward.registers)
      (gives_setProperty.mpr ⟨_, plansLast, rfl⟩)).onward.registers changesLast
  exact .of_changes inOrder
    (inTurn.congr fun value => (FieldChange.apply_comm commutes value).symm)

end Pairs

/-! ## All properties -/

section Lists

variable {properties others : List Property} {steps : List Step}
variable (indexed : env.header.WellIndexed) (reliable : Reliable env recurse)
variable (recursing : ∀ offset, Local env offset recurse) (isRoot : site.scope = .root)
include indexed reliable recursing isRoot

theorem setEach_permuted (row : Row) (permuted : properties.Perm others)
    (apart : properties.Pairwise (PropertyOf.Apart env.settings.separator))
    (sized : pass.claims.length = env.header.length) (known : target < pass.nextRegister)
    (given : Gives (setEach (setProperty env recurse site target) properties) pass steps next) :
    ∃ again, Gives (setEach (setProperty env recurse site target) others) pass again next ∧
      Program.Alike row pass next ⟨steps, target⟩ ⟨again, target⟩ := by
  have each {property : Property} {pass next : Pass} {steps : List Step}
      (sized : pass.claims.length = env.header.length) (known : target < pass.nextRegister)
      (given : Gives (setProperty env recurse site target property) pass steps next) :=
    setProperty_planned indexed reliable sized known given
  induction permuted generalizing pass steps next with
  | nil => exact ⟨steps, given, .refl⟩
  | cons property perm ih =>
      obtain ⟨first, middle, rest, isFirst, later, rfl⟩ := setEach_cons given
      have block := each sized known isFirst
      have stillSized := block.onward.length.trans sized
      have stillKnown := Nat.lt_of_lt_of_le known block.onward.registers
      obtain ⟨again, planned, alike⟩ :=
        ih (List.pairwise_cons.mp apart).2 stillSized stillKnown later
      exact ⟨first ++ again, setEach_next isFirst planned,
        .append block block (setEach_planned each stillSized stillKnown later) .refl alike⟩
  | swap two one rest =>
      obtain ⟨first, middle, _, isFirst, later, rfl⟩ := setEach_cons given
      obtain ⟨second, between, others, isSecond, last, rfl⟩ := setEach_cons later
      obtain ⟨secondAgain, reached, firstAgain, planned, replanned, alike⟩ :=
        setProperty_swap indexed reliable recursing isRoot row
          (List.rel_of_pairwise_cons apart (by simp)) sized known isFirst isSecond
      have pair {one two : Property} {pass middle next : Pass} {left right : List Step}
          (sized : pass.claims.length = env.header.length) (known : target < pass.nextRegister)
          (first : Gives (setProperty env recurse site target one) pass left middle)
          (second : Gives (setProperty env recurse site target two) middle right next) :
          Block [target] [target] pass (left ++ right) next := by
        have block := each sized known first
        exact block.onTarget (each (block.onward.length.trans sized)
          (Nat.lt_of_lt_of_le known block.onward.registers) second)
      have block := pair sized known isFirst isSecond
      refine ⟨secondAgain ++ (firstAgain ++ others),
        setEach_next planned (setEach_next replanned last), ?_⟩
      rw [← List.append_assoc, ← List.append_assoc]
      exact .append block (pair sized known planned replanned)
        (setEach_planned each (block.onward.length.trans sized)
          (Nat.lt_of_lt_of_le known block.onward.registers) last) alike .refl
  | trans first second ihFirst ihSecond =>
      obtain ⟨between, planned, alike⟩ := ihFirst apart sized known given
      obtain ⟨again, replanned, alikeAgain⟩ :=
        ihSecond (first.pairwise apart fun isApart => isApart.symm) sized known planned
      exact ⟨again, replanned, alike.trans alikeAgain⟩

end Lists

end Planning

end Unflatten
