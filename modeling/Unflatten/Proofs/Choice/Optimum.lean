import Mathlib.Data.List.Basic
import Unflatten.ConstructorChoice

/-!
# The best constructor

What the choice of a constructor should be is said here without the search: a column serves a
parameter in one of three ways, a constructor is usable if every parameter is served, and the best
one has the most parameters of all usable ones and stands before its equals. The search keeps the
best of the constructors behind the current one, so an induction from the back shows that it finds
this one, and nothing only where none is usable.
-/

set_option autoImplicit false

namespace Unflatten

/-! ## Columns for parameters -/

namespace View

/-- The column belongs to the scope and is still free. -/
structure Sees (view : View) (column : HeaderColumn) : Prop where
  isColumn : column ∈ view.header
  isFree : view.claims.isClaimed column.index = false
  inScope : view.scope.contains column = true

/-- The same columns seen from a member. -/
def within (view : View) (name separator : String) : View :=
  { view with scope := view.scope.member name separator }

inductive Serves (view : View) (settings : Settings) (parameter : Parameter)
    (column : HeaderColumn) : Prop where
  | named (sees : view.Sees column)
      (bears : view.scope.nameWithin column = foldName parameter.name)
  | member (isNested : parameter.target.isLeaf = false)
      (sees : (view.within parameter.name settings.separator).Sees column)
  | nameless (isSink : parameter.isSink = true) (sees : view.Sees column)
      (unnamed : column.folded = foldName settings.sentinel)

variable {view : View} {settings : Settings} {parameter : Parameter} {column : HeaderColumn}

theorem mem_available_iff :
    column ∈ view.header.available view.claims view.scope ↔ view.Sees column := by
  rw [Header.available, List.mem_filter, Bool.and_eq_true, Bool.not_eq_true']
  exact ⟨fun ⟨isColumn, isFree, inScope⟩ => ⟨isColumn, isFree, inScope⟩,
    fun sees => ⟨sees.isColumn, sees.isFree, sees.inScope⟩⟩

theorem hasColumn_iff {name : String} : view.header.hasColumn view.claims view.scope name = true ↔
    ∃ column, view.Sees column ∧ view.scope.nameWithin column = name := by
  simp only [Header.hasColumn, Header.find?, List.find?_isSome, mem_available_iff, beq_iff_eq]

theorem hasMember_iff {name separator : String} :
    view.header.hasMember view.claims view.scope name separator = true ↔
      ∃ column, (view.within name separator).Sees column := by
  rw [Header.hasMember, Bool.not_eq_true', List.isEmpty_eq_false_iff_exists_mem]
  exact exists_congr fun column => @mem_available_iff (view.within name separator) column

theorem nameless_nonempty_iff {sentinel : String} :
    (!(view.header.nameless view.claims view.scope sentinel).isEmpty) = true ↔
      ∃ column, view.Sees column ∧ column.folded = foldName sentinel := by
  simp only [Bool.not_eq_true', List.isEmpty_eq_false_iff, Header.nameless, ne_eq,
    List.map_eq_nil_iff, List.filter_eq_nil_iff, mem_available_iff, beq_iff_eq, not_forall,
    not_not, exists_prop]

/-- The three tests are made in order, but any column that passes one of them will do. -/
theorem bind?_isSome_iff :
    (view.bind? settings parameter).isSome = true ↔
      ∃ column, view.Serves settings parameter column := by
  constructor
  · intro bound
    rw [bind?] at bound
    split at bound
    next named =>
      obtain ⟨column, sees, bears⟩ := hasColumn_iff.mp named
      exact ⟨column, .named sees bears⟩
    next =>
      split at bound
      next nested =>
        rw [Bool.and_eq_true, Bool.not_eq_true'] at nested
        obtain ⟨column, sees⟩ := hasMember_iff.mp nested.2
        exact ⟨column, .member nested.1 sees⟩
      next =>
        split at bound
        next sunk =>
          rw [Bool.and_eq_true] at sunk
          obtain ⟨column, sees, unnamed⟩ := nameless_nonempty_iff.mp sunk.2
          exact ⟨column, .nameless sunk.1 sees unnamed⟩
        next => cases bound
  · rintro ⟨column, serves⟩
    cases serves with
    | named sees bears =>
        have named := hasColumn_iff.mpr ⟨column, sees, bears⟩
        simp [bind?, named]
    | member isNested sees =>
        have nested := hasMember_iff.mpr ⟨column, sees⟩
        simp only [bind?, isNested, nested]
        split <;> rfl
    | nameless isSink sees unnamed =>
        have sunk := nameless_nonempty_iff.mpr ⟨column, sees, unnamed⟩
        simp only [bind?, isSink, sunk]
        split
        · rfl
        · split <;> rfl

end View

/-! ## Usable constructors -/

structure ConstructorOf.Usable (constructor : Constructor) (view : View) (settings : Settings) :
    Prop where
  isPublic : constructor.isPublic = true
  isInstance : constructor.isStatic = false
  served : ∀ parameter ∈ constructor.parameters,
    ∃ column, view.Serves settings parameter column

namespace View

/-- No usable constructor has more parameters, and those before it have fewer. -/
def IsBest (view : View) (settings : Settings) (constructors : List Constructor)
    (constructor : Constructor) : Prop :=
  ∃ earlier later, constructors = earlier ++ constructor :: later ∧
    constructor.Usable view settings ∧
    (∀ other ∈ earlier, other.Usable view settings →
      other.parameters.length < constructor.parameters.length) ∧
    ∀ other ∈ later, other.Usable view settings →
      other.parameters.length ≤ constructor.parameters.length

variable {view : View} {settings : Settings} {constructor other : Constructor}
  {rest constructors : List Constructor}

namespace IsBest

theorem head (usable : constructor.Usable view settings)
    (least : ∀ other ∈ rest, other.Usable view settings →
      other.parameters.length ≤ constructor.parameters.length) :
    view.IsBest settings (constructor :: rest) constructor :=
  ⟨[], rest, rfl, usable, by simp, least⟩

theorem behind (best : view.IsBest settings rest other)
    (less : constructor.Usable view settings →
      constructor.parameters.length < other.parameters.length) :
    view.IsBest settings (constructor :: rest) other := by
  obtain ⟨earlier, later, rfl, usable, before, after⟩ := best
  refine ⟨constructor :: earlier, later, rfl, usable, ?_, after⟩
  intro another member
  rcases List.mem_cons.mp member with rfl | member
  · exact less
  · exact before another member

theorem isUsable (best : view.IsBest settings constructors constructor) :
    constructor.Usable view settings := by
  obtain ⟨earlier, later, _, usable, _, _⟩ := best
  exact usable

theorem mem (best : view.IsBest settings constructors constructor) :
    constructor ∈ constructors := by
  obtain ⟨earlier, later, rfl, _, _, _⟩ := best
  simp

theorem greatest (best : view.IsBest settings constructors constructor)
    (member : other ∈ constructors) (usable : other.Usable view settings) :
    other.parameters.length ≤ constructor.parameters.length := by
  obtain ⟨earlier, later, rfl, _, before, after⟩ := best
  rcases List.mem_append.mp member with member | member
  · exact Nat.le_of_lt (before other member usable)
  · rcases List.mem_cons.mp member with rfl | member
    · exact Nat.le_refl _
    · exact after other member usable

/-- Of two best constructors the later one would have to have more parameters. -/
theorem unique (best : view.IsBest settings constructors constructor)
    (alsoBest : view.IsBest settings constructors other) : constructor = other := by
  induction constructors with
  | nil => cases best.mem
  | cons first rest ih =>
      obtain ⟨earlier, later, split, usable, before, after⟩ := best
      obtain ⟨others, laters, alsoSplit, alsoUsable, alsoBefore, alsoAfter⟩ := alsoBest
      cases earlier with
      | nil =>
          obtain ⟨rfl, rfl⟩ := List.cons.inj split
          cases others with
          | nil => exact (List.cons.inj alsoSplit).1
          | cons one others =>
              obtain ⟨rfl, rfl⟩ := List.cons.inj alsoSplit
              have less := alsoBefore first (by simp) usable
              have most := after other (by simp) alsoUsable
              lia
      | cons one earlier =>
          obtain ⟨rfl, rfl⟩ := List.cons.inj split
          cases others with
          | nil =>
              obtain ⟨rfl, rfl⟩ := List.cons.inj alsoSplit
              have less := before first (by simp) alsoUsable
              have most := alsoAfter constructor (by simp) usable
              lia
          | cons one others =>
              obtain ⟨rfl, same⟩ := List.cons.inj alsoSplit
              exact ih
                ⟨earlier, later, rfl, usable,
                  fun other member => before other (List.mem_cons_of_mem _ member), after⟩
                ⟨others, laters, same, alsoUsable,
                  fun other member => alsoBefore other (List.mem_cons_of_mem _ member), alsoAfter⟩

end IsBest

/-! ## The search -/

theorem rating_eq_some_iff {points : Nat} :
    (if constructor.isPublic && !constructor.isStatic then view.score? settings constructor
      else none) = some points ↔
      constructor.Usable view settings ∧ points = constructor.parameters.length := by
  simp only [score?, Option.ite_none_right_eq_some, Bool.and_eq_true, Bool.not_eq_true',
    List.all_eq_true, bind?_isSome_iff, Option.some.injEq]
  constructor
  · rintro ⟨⟨isPublic, isInstance⟩, served, rfl⟩
    exact ⟨⟨isPublic, isInstance, served⟩, rfl⟩
  · rintro ⟨⟨isPublic, isInstance, served⟩, rfl⟩
    exact ⟨⟨isPublic, isInstance⟩, served, rfl⟩

theorem rating_eq_none_iff :
    (if constructor.isPublic && !constructor.isStatic then view.score? settings constructor
      else none) = none ↔ ¬ constructor.Usable view settings := by
  rw [Option.eq_none_iff_forall_ne_some]
  constructor
  · intro never usable
    exact never _ (rating_eq_some_iff.mpr ⟨usable, rfl⟩)
  · intro unusable points isRating
    exact unusable (rating_eq_some_iff.mp isRating).1

/-- What the search finds behind a constructor is the best of the rest, so only the constructor
and this one need to be compared. -/
theorem best?_spec (view : View) (settings : Settings) (constructors : List Constructor) :
    match view.best? settings constructors with
    | some (points, constructor) =>
      points = constructor.parameters.length ∧ view.IsBest settings constructors constructor
    | none => ∀ constructor ∈ constructors, ¬ constructor.Usable view settings := by
  induction constructors with
  | nil => simp [best?]
  | cons constructor rest ih =>
      rw [best?]
      cases rated : (if constructor.isPublic && !constructor.isStatic then
          view.score? settings constructor else none) with
      | none =>
          have unusable := rating_eq_none_iff.mp rated
          cases found : view.best? settings rest with
          | none =>
              rw [found] at ih
              exact List.forall_mem_cons.mpr ⟨unusable, ih⟩
          | some best =>
              rw [found] at ih
              exact ⟨ih.1, ih.2.behind fun usable => absurd usable unusable⟩
      | some points =>
          obtain ⟨usable, rfl⟩ := rating_eq_some_iff.mp rated
          cases found : view.best? settings rest with
          | none =>
              rw [found] at ih
              exact ⟨rfl, .head usable fun other member usable => absurd usable (ih other member)⟩
          | some best =>
              rw [found] at ih
              obtain ⟨more, other⟩ := best
              obtain ⟨rfl, isBest⟩ := ih
              by_cases less : constructor.parameters.length < other.parameters.length
              · simp only [less, if_true, true_and]
                exact isBest.behind fun _ => less
              · simp only [less, if_false, true_and]
                refine .head usable fun another member alsoUsable => ?_
                exact Nat.le_trans (isBest.greatest member alsoUsable) (Nat.not_lt.mp less)

theorem best?_eq_some_iff {points : Nat} :
    view.best? settings constructors = some (points, constructor) ↔
      points = constructor.parameters.length ∧
        view.IsBest settings constructors constructor := by
  have spec := best?_spec view settings constructors
  constructor
  · intro found
    rwa [found] at spec
  · rintro ⟨rfl, best⟩
    split at spec
    next more other found =>
      obtain ⟨rfl, alsoBest⟩ := spec
      rw [best.unique alsoBest, found]
    next => exact absurd best.isUsable (spec constructor best.mem)

theorem best?_eq_none_iff :
    view.best? settings constructors = none ↔
      ∀ constructor ∈ constructors, ¬ constructor.Usable view settings := by
  have spec := best?_spec view settings constructors
  constructor
  · intro found
    rwa [found] at spec
  · intro unusable
    split at spec
    next points constructor found =>
      exact absurd spec.2.isUsable (unusable constructor spec.2.mem)
    next found => exact found

end View

/-! ## Preferred constructors -/

/-- What a preferred constructor has to be; the columns do not matter. -/
structure ConstructorOf.Acceptable (constructor : Constructor) (type : ObjectType) : Prop where
  isPublic : constructor.isPublic = true
  isInstance : constructor.isStatic = false
  isOwn : constructor.owner = type.name

/-- The first thing that speaks against a constructor. -/
inductive ConstructorObjection.AppliesTo (type : ObjectType) (constructor : Constructor) :
    ConstructorObjection → Prop where
  | notPublic (isHidden : constructor.isPublic = false) : AppliesTo type constructor .notPublic
  | isStatic (isPublic : constructor.isPublic = true) (makesNothing : constructor.isStatic = true) :
      AppliesTo type constructor .isStatic
  | ownedBy (isPublic : constructor.isPublic = true) (isInstance : constructor.isStatic = false)
      (isForeign : constructor.owner ≠ type.name) :
      AppliesTo type constructor (.ownedBy constructor.owner)

namespace ConstructorOf

variable {type : ObjectType} {constructor : Constructor}

theorem objection?_eq_some_iff {objection : ConstructorObjection} :
    constructor.objection? type = some objection ↔ objection.AppliesTo type constructor := by
  constructor
  · intro found
    rw [objection?] at found
    split at found
    next isHidden =>
      obtain rfl := Option.some.inj found
      exact .notPublic (by simpa using isHidden)
    next isPublic =>
      have isPublic : constructor.isPublic = true := by simpa using isPublic
      split at found
      next isStatic =>
        obtain rfl := Option.some.inj found
        exact .isStatic isPublic isStatic
      next isInstance =>
        obtain ⟨isForeign, same⟩ := Option.ite_none_right_eq_some.mp found
        obtain rfl := Option.some.inj same
        exact .ownedBy isPublic (by simpa using isInstance) isForeign
  · intro applies
    cases applies with
    | notPublic isHidden => simp [objection?, isHidden]
    | isStatic isPublic makesNothing => simp [objection?, isPublic, makesNothing]
    | ownedBy isPublic isInstance isForeign =>
        simp [objection?, isPublic, isInstance, isForeign]

theorem objection?_eq_none_iff :
    constructor.objection? type = none ↔ constructor.Acceptable type := by
  constructor
  · intro found
    rw [Option.eq_none_iff_forall_ne_some] at found
    have isPublic : constructor.isPublic = true :=
      Bool.of_not_eq_false fun isHidden =>
        found _ (objection?_eq_some_iff.mpr (.notPublic isHidden))
    have isInstance : constructor.isStatic = false :=
      Bool.of_not_eq_true fun isStatic =>
        found _ (objection?_eq_some_iff.mpr (.isStatic isPublic isStatic))
    refine ⟨isPublic, isInstance, ?_⟩
    by_contra isForeign
    exact found _ (objection?_eq_some_iff.mpr (.ownedBy isPublic isInstance isForeign))
  · intro acceptable
    simp [objection?, acceptable.isPublic, acceptable.isInstance, acceptable.isOwn]

end ConstructorOf

/-! ## The choice -/

namespace ObjectTypeOf

/-- The constructor that a type is to be made with. -/
inductive Chooses (type : ObjectType) (own : Option TypePolicy) (view : View)
    (settings : Settings) : Constructor → Prop where
  | preferred {constructor : Constructor}
      (isPreferred : own.bind TypePolicy.preferred = some constructor)
      (acceptable : constructor.Acceptable type) : Chooses type own view settings constructor
  | best {constructor : Constructor} (unpreferred : own.bind TypePolicy.preferred = none)
      (isConcrete : type.isAbstract = false)
      (isBest : view.IsBest settings type.constructors constructor) :
      Chooses type own view settings constructor

/-- Why a type is not to be made at all. -/
inductive Refuses (type : ObjectType) (own : Option TypePolicy) (view : View)
    (settings : Settings) : Failure → Prop where
  | preferred {constructor : Constructor} {objection : ConstructorObjection}
      (isPreferred : own.bind TypePolicy.preferred = some constructor)
      (applies : objection.AppliesTo type constructor) :
      Refuses type own view settings (.refusedConstructor type.name objection)
  | abstract (unpreferred : own.bind TypePolicy.preferred = none)
      (isAbstract : type.isAbstract = true) :
      Refuses type own view settings (.noUsableConstructor type.name)
  | unusable (unpreferred : own.bind TypePolicy.preferred = none)
      (isUnusable : ∀ constructor ∈ type.constructors, ¬ constructor.Usable view settings) :
      Refuses type own view settings (.noUsableConstructor type.name)

variable {type : ObjectType} {own : Option TypePolicy} {view : View} {settings : Settings}

theorem chooseConstructor_chooses {constructor : Constructor}
    (chooses : type.Chooses own view settings constructor) :
    type.chooseConstructor own view settings = .ok constructor := by
  cases chooses with
  | preferred isPreferred acceptable =>
      simp [chooseConstructor, isPreferred, ConstructorOf.objection?_eq_none_iff.mpr acceptable]
  | best unpreferred isConcrete isBest =>
      simp [chooseConstructor, unpreferred, isConcrete,
        View.best?_eq_some_iff.mpr ⟨rfl, isBest⟩]

theorem chooseConstructor_refuses {failure : Failure}
    (refuses : type.Refuses own view settings failure) :
    type.chooseConstructor own view settings = .error failure := by
  cases refuses with
  | preferred isPreferred applies =>
      simp [chooseConstructor, isPreferred, ConstructorOf.objection?_eq_some_iff.mpr applies]
  | abstract unpreferred isAbstract => simp [chooseConstructor, unpreferred, isAbstract]
  | unusable unpreferred isUnusable =>
      simp [chooseConstructor, unpreferred, View.best?_eq_none_iff.mpr isUnusable]

theorem chooses_or_refuses (type : ObjectType) (own : Option TypePolicy) (view : View)
    (settings : Settings) :
    (∃ constructor, type.Chooses own view settings constructor) ∨
      ∃ failure, type.Refuses own view settings failure := by
  cases isPreferred : own.bind TypePolicy.preferred with
  | some preferred =>
      cases objected : preferred.objection? type with
      | some objection =>
          exact .inr ⟨_, .preferred isPreferred (ConstructorOf.objection?_eq_some_iff.mp objected)⟩
      | none =>
          exact .inl ⟨_, .preferred isPreferred (ConstructorOf.objection?_eq_none_iff.mp objected)⟩
  | none =>
      cases isAbstract : type.isAbstract with
      | true => exact .inr ⟨_, .abstract isPreferred isAbstract⟩
      | false =>
          cases found : view.best? settings type.constructors with
          | some best =>
              exact .inl ⟨_, .best isPreferred isAbstract (View.best?_eq_some_iff.mp found).2⟩
          | none => exact .inr ⟨_, .unusable isPreferred (View.best?_eq_none_iff.mp found)⟩

theorem chooses_of_chosen {constructor : Constructor}
    (chosen : type.chooseConstructor own view settings = .ok constructor) :
    type.Chooses own view settings constructor := by
  rcases chooses_or_refuses type own view settings with ⟨other, chooses⟩ | ⟨reason, refuses⟩
  · rwa [← Except.ok.inj ((chooseConstructor_chooses chooses).symm.trans chosen)]
  · cases (chooseConstructor_refuses refuses).symm.trans chosen

theorem refuses_of_failed {failure : Failure}
    (failed : type.chooseConstructor own view settings = .error failure) :
    type.Refuses own view settings failure := by
  rcases chooses_or_refuses type own view settings with ⟨other, chooses⟩ | ⟨reason, refuses⟩
  · cases (chooseConstructor_chooses chooses).symm.trans failed
  · rwa [← Except.error.inj ((chooseConstructor_refuses refuses).symm.trans failed)]

/-- The choice gives a constructor exactly if it should be chosen, and fails with a failure exactly
if the type is to be refused for it. -/
theorem chooseConstructor_optimal (type : ObjectType) (own : Option TypePolicy) (view : View)
    (settings : Settings) :
    (∀ constructor, type.chooseConstructor own view settings = .ok constructor ↔
      type.Chooses own view settings constructor) ∧
    ∀ failure, type.chooseConstructor own view settings = .error failure ↔
      type.Refuses own view settings failure :=
  ⟨fun _ => ⟨chooses_of_chosen, chooseConstructor_chooses⟩,
    fun _ => ⟨refuses_of_failed, chooseConstructor_refuses⟩⟩

end ObjectTypeOf

end Unflatten
