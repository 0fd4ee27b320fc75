import Unflatten.ConstructorChoice
import Unflatten.Proofs.Keys.Reach
import Unflatten.Proofs.Planning.Outcome

/-!
# Planning alike targets

Nothing in the choice of columns looks at the names that providers give to types. Two headers that
agree apart from these names have the same columns of every name in every scope. Alike targets have
the same plans for such headers: each planner makes the same steps at both sites if the planner of
its members does.
-/

set_option autoImplicit false

namespace Unflatten

/-! ## Columns apart from their providers -/

def HeaderColumn.bare (column : HeaderColumn) : HeaderColumn :=
  { column with provider := "" }

/-- Equal up to the names that providers give to types. -/
def Header.Matches (left right : List HeaderColumn) : Prop :=
  left.map HeaderColumn.bare = right.map HeaderColumn.bare

def Namesakes.bare (group : Namesakes) : Namesakes :=
  { group with columns := group.columns.map HeaderColumn.bare }

theorem HeaderColumn.of_bare {column other : HeaderColumn} (same : column.bare = other.bare) :
    column.index = other.index ∧ column.name = other.name ∧ column.type = other.type := by
  simp only [bare, mk.injEq, and_true] at same
  exact ⟨same.1, same.2.1, same.2.2.2⟩

theorem Namesakes.of_bare {group other : Namesakes} (same : group.bare = other.bare) :
    group.display = other.display ∧ Header.Matches group.columns other.columns := by
  simp only [bare, mk.injEq] at same
  exact ⟨same.2.1, same.2.2⟩

namespace Header

section Columns

variable {left right : Header}

theorem Matches.length (matched : Matches left right) : left.length = right.length := by
  simpa using congrArg List.length matched

theorem Matches.filterMap {α : Type} (matched : Matches left right)
    {select : HeaderColumn → Option α}
    (blind : ∀ column : HeaderColumn, select column.bare = select column) :
    left.filterMap select = right.filterMap select := by
  have through : ∀ header : Header, header.filterMap select =
      (header.map HeaderColumn.bare).filterMap select := by
    intro header
    rw [List.filterMap_map]
    exact congrArg (header.filterMap ·) (funext blind).symm
  rw [through left, matched, ← through right]

theorem Matches.filter (matched : Matches left right) {accepts : HeaderColumn → Bool}
    (blind : ∀ column : HeaderColumn, accepts column.bare = accepts column) :
    Matches (left.filter accepts) (right.filter accepts) := by
  have through : ∀ header : Header, (header.filter accepts).map HeaderColumn.bare =
      (header.map HeaderColumn.bare).filter accepts := by
    intro header
    rw [List.filter_map]
    exact congrArg (fun accepts => (header.filter accepts).map HeaderColumn.bare)
      (funext blind).symm
  rw [Matches, through left, matched, ← through right]

theorem Matches.map {α : Type} (matched : Matches left right) {view : HeaderColumn → α}
    (blind : ∀ column : HeaderColumn, view column.bare = view column) :
    left.map view = right.map view := by
  have through : ∀ header : Header,
      header.map view = (header.map HeaderColumn.bare).map view := by
    intro header
    rw [List.map_map]
    exact congrArg (header.map ·) (funext blind).symm
  rw [through left, matched, ← through right]

theorem Matches.isEmpty (matched : Matches left right) : left.isEmpty = right.isEmpty := by
  rw [Bool.eq_iff_iff, List.isEmpty_iff_length_eq_zero, List.isEmpty_iff_length_eq_zero,
    matched.length]

theorem Matches.head? (matched : Matches left right) :
    left.head?.map HeaderColumn.bare = right.head?.map HeaderColumn.bare := by
  rw [← List.head?_map, ← List.head?_map, matched]

end Columns

section Queries

variable {left right : Header} (matched : Matches left right)
include matched

theorem Matches.available (claims : Claims) (scope : Scope) :
    Matches (left.available claims scope) (right.available claims scope) :=
  matched.filter fun _ => rfl

theorem Matches.find? (claims : Claims) (scope : Scope) (localName : String) :
    (left.find? claims scope localName).map HeaderColumn.bare =
      (right.find? claims scope localName).map HeaderColumn.bare := by
  rw [Header.find?, Header.find?, ← List.head?_filter, ← List.head?_filter]
  exact ((matched.available claims scope).filter fun _ => rfl).head?

theorem Matches.hasColumn (claims : Claims) (scope : Scope) (localName : String) :
    left.hasColumn claims scope localName = right.hasColumn claims scope localName := by
  have found := congrArg Option.isSome (matched.find? claims scope localName)
  rwa [Option.isSome_map, Option.isSome_map] at found

theorem Matches.hasMember (claims : Claims) (scope : Scope) (name separator : String) :
    left.hasMember claims scope name separator = right.hasMember claims scope name separator := by
  rw [Header.hasMember, Header.hasMember, (matched.available claims _).isEmpty]

theorem Matches.nameless (claims : Claims) (scope : Scope) (sentinel : String) :
    left.nameless claims scope sentinel = right.nameless claims scope sentinel :=
  ((matched.available claims scope).filter fun _ => rfl).map fun _ => rfl

theorem Matches.memberNames (claims : Claims) (scope : Scope) (separator : String) :
    left.memberNames claims scope separator = right.memberNames claims scope separator := by
  rw [Header.memberNames, Header.memberNames]
  split
  · rfl
  · rw [(matched.available claims scope).filterMap fun _ => rfl]

end Queries

theorem insert_bare (scope : Scope) (column : HeaderColumn) (groups : List Namesakes) :
    (Namesakes.insert scope column groups).map Namesakes.bare =
      Namesakes.insert scope column.bare (groups.map Namesakes.bare) := by
  induction groups with
  | nil => rfl
  | cons group rest ih =>
      have name : scope.nameWithin column.bare = scope.nameWithin column := rfl
      have kept : group.bare.localName = group.localName := rfl
      rw [Namesakes.insert, List.map_cons, Namesakes.insert, name, kept, ← ih]
      split
      · simp [Namesakes.bare]
      · rfl

theorem insertAll_bare (scope : Scope) (columns : List HeaderColumn) (groups : List Namesakes) :
    (columns.foldl (fun groups column => Namesakes.insert scope column groups) groups).map
        Namesakes.bare =
      (columns.map HeaderColumn.bare).foldl
        (fun groups column => Namesakes.insert scope column groups)
        (groups.map Namesakes.bare) := by
  induction columns generalizing groups with
  | nil => rfl
  | cons column rest ih => rw [List.foldl_cons, ih, insert_bare, List.map_cons, List.foldl_cons]

theorem Matches.namesakes {left right : Header} (matched : Matches left right) (claims : Claims)
    (scope : Scope) :
    (left.namesakes claims scope).map Namesakes.bare =
      (right.namesakes claims scope).map Namesakes.bare := by
  rw [Header.namesakes, Header.namesakes, insertAll_bare, insertAll_bare,
    matched.available claims scope]

end Header

/-! ## Choice of constructors -/

section Choice

variable {left right : Header} (matched : Header.Matches left right) (claims : Claims)
variable (scope : Scope) (settings : Settings)
include matched

theorem View.bind?_matches (parameter : Parameter) :
    View.bind? ⟨left, claims, scope⟩ settings parameter =
      View.bind? ⟨right, claims, scope⟩ settings parameter := by
  simp only [View.bind?, matched.hasColumn, matched.hasMember, matched.nameless]

theorem View.score?_matches (constructor : Constructor) :
    View.score? ⟨left, claims, scope⟩ settings constructor =
      View.score? ⟨right, claims, scope⟩ settings constructor := by
  simp only [View.score?, View.bind?_matches matched]

theorem View.best?_matches (constructors : List Constructor) :
    View.best? ⟨left, claims, scope⟩ settings constructors =
      View.best? ⟨right, claims, scope⟩ settings constructors := by
  induction constructors with
  | nil => rfl
  | cons constructor rest ih => simp only [View.best?, View.score?_matches matched, ih]

theorem ObjectTypeOf.chooseConstructor_matches (type : ObjectType) (own : Option TypePolicy) :
    type.chooseConstructor own ⟨left, claims, scope⟩ settings =
      type.chooseConstructor own ⟨right, claims, scope⟩ settings := by
  simp only [ObjectTypeOf.chooseConstructor, View.best?_matches matched]

end Choice

/-! ## Signatures -/

namespace Header

/-- What the signature of a header keeps of a column. -/
def columnKey (column : Column) : String × String × ScalarType :=
  (foldName column.name, column.name, column.type)

theorem signature_ofColumns (columns : List Column) :
    (ofColumns columns).signature = columns.map columnKey := by
  calc (ofColumns columns).signature
      = columns.zipIdx.map (columnKey ∘ Prod.fst) := by
        rw [signature, ofColumns, List.map_map]
        rfl
    _ = columns.map columnKey := by
        rw [← List.map_map, List.zipIdx_map_fst]

theorem bare_ofColumns (columns : List Column) :
    (ofColumns columns).map HeaderColumn.bare =
      (columns.map columnKey).zipIdx.map fun entry =>
        ⟨entry.2, entry.1.2.1, entry.1.1, entry.1.2.2, ""⟩ := by
  rw [ofColumns, List.map_map, List.zipIdx_map, List.map_map]
  rfl

variable {columns others : List Column}

theorem matches_of_signature
    (same : (ofColumns columns).signature = (ofColumns others).signature) :
    Matches (ofColumns columns) (ofColumns others) := by
  rw [signature_ofColumns, signature_ofColumns] at same
  rw [Matches, bare_ofColumns, bare_ofColumns, same]

end Header

/-! ## Alike targets -/

namespace Target.Alike

variable {bindings later : Bindings} {settings : Settings} {one other : Target}

theorem leaf?_of_resolve (one : Target) : ∀ other,
    Alike bindings later settings (one.resolve bindings) other → one.leaf? = other.leaf? := by
  refine inside_induction (fun one => ∀ other,
    Alike bindings later settings (one.resolve bindings) other → one.leaf? = other.leaf?)
    (fun target inside other alike => ?_) one
  cases target with
  | reference ref =>
      rw [resolve] at alike
      split at alike
      · cases alike
        rfl
      · cases alike
        rfl
  | nullable inner =>
      cases alike with
      | @nullable _ another alike =>
          have below := inside inner (by simp [Target.inside]) _ alike
          rw [Target.leaf?_resolve] at below
          rw [Target.leaf?, Target.leaf?, below]
  | _ =>
      cases alike
      rfl

theorem leaf? (alike : Alike bindings later settings one other) : one.leaf? = other.leaf? := by
  cases alike with
  | @nullable inner another alike =>
      have below := leaf?_of_resolve inner _ alike
      rw [Target.leaf?_resolve] at below
      rw [Target.leaf?, Target.leaf?, below]
  | _ => rfl

theorem isAny (alike : Alike bindings later settings one other) : one.isAny = other.isAny := by
  cases alike with
  | _ => rfl

theorem resolved_leaf? (alike : Alike bindings later settings (one.resolve bindings)
    (other.resolve later)) : one.leaf? = other.leaf? := by
  rw [← @Target.leaf?_resolve bindings one, alike.leaf?, Target.leaf?_resolve]

theorem resolved_default (alike : Alike bindings later settings (one.resolve bindings)
    (other.resolve later)) : one.defaultValue = other.defaultValue := by
  rw [Target.defaultValue, Target.defaultValue, alike.resolved_leaf?]

end Target.Alike

/-- The same settings for other columns under other bindings. -/
def Environment.anew (env : Environment) (header : Header) (bindings : Bindings) : Environment :=
  ⟨header, env.settings, bindings⟩

@[simp] theorem Environment.anew_settings (env : Environment) (header : Header)
    (bindings : Bindings) : (env.anew header bindings).settings = env.settings := rfl

/-- The same place with another target. -/
def Site.toward (site : Site) (target : Target) : Site :=
  { site with target }

section Toward

variable (site : Site) (target : Target)

@[simp] theorem Site.toward_target : (site.toward target).target = target := rfl

@[simp] theorem Site.toward_scope : (site.toward target).scope = site.scope := rfl

@[simp] theorem Site.toward_existing : (site.toward target).existing = site.existing := rfl

@[simp] theorem Site.toward_isRoot : (site.toward target).isRoot = site.isRoot := rfl

end Toward

namespace Planning

/-- Both planners make the same of alike targets at the same place. -/
def Replans (env : Environment) (later : Bindings) (planner again : Planner) : Prop :=
  ∀ (site : Site) (other : Target),
    Target.Alike env.bindings later env.settings site.target other →
      Same (planner site) (again (site.toward other))

variable {env : Environment} {header : Header} {later : Bindings} {recurse again : Planner}
variable {site : Site} {other : Target}

/-! ## Columns -/

section Columns

variable (matched : Header.Matches env.header header)
include matched

theorem available_parallel (scope : Scope) :
    Parallel Header.Matches (available env scope) (available (env.anew header later) scope) :=
  fun pass => ⟨rfl, Concurs.ok (matched.available pass.claims scope)⟩

theorem find?_parallel (scope : Scope) (localName : String) :
    Parallel (fun one other => one.map HeaderColumn.bare = other.map HeaderColumn.bare)
      (find? env scope localName) (find? (env.anew header later) scope localName) :=
  fun pass => ⟨rfl, Concurs.ok (matched.find? pass.claims scope localName)⟩

theorem hasMember_parallel (scope : Scope) (name : String) :
    Same (hasMember env scope name) (hasMember (env.anew header later) scope name) :=
  fun pass => ⟨rfl, Concurs.ok (matched.hasMember pass.claims scope name env.settings.separator)⟩

theorem isAbsent_parallel :
    Same (isAbsent env site) (isAbsent (env.anew header later) (site.toward other)) := by
  refine Parallel.bind (available_parallel matched site.scope) fun columns others same => ?_
  rw [same.isEmpty]
  exact Parallel.refl _

omit matched in
theorem read_parallel {column another : HeaderColumn} (leaf : Leaf)
    (same : column.bare = another.bare) :
    Same (read env column leaf) (read (env.anew header later) another leaf) := by
  obtain ⟨index, name, type⟩ := HeaderColumn.of_bare same
  refine Parallel.of_eq ?_
  rw [read, read, index, name, type]
  rfl

omit matched in
theorem readAll_parallel (leaf : Leaf) {columns others : List HeaderColumn}
    (same : Header.Matches columns others) :
    Same (readAll env leaf columns) (readAll (env.anew header later) leaf others) := by
  induction columns generalizing others with
  | nil =>
      cases others with
      | nil => exact Parallel.refl _
      | cons another rest => cases same
  | cons column rest ih =>
      cases others with
      | nil => cases same
      | cons another others =>
          obtain ⟨first, later⟩ := List.cons.inj same
          refine Parallel.bindSame (read_parallel leaf first) fun item => ?_
          exact Parallel.bindSame (ih later) fun items => Parallel.refl _

omit matched in
theorem readGroup_parallel (leaf : Leaf) {group another : Namesakes}
    (same : group.bare = another.bare) :
    Same (readGroup env leaf group) (readGroup (env.anew header later) leaf another) := by
  exact Parallel.bindSame (readAll_parallel leaf (Namesakes.of_bare same).2)
    fun items => Parallel.refl _

omit matched in
theorem insertGroups_parallel (leaf : Leaf) (type : Option DictionaryType) (target : Register)
    {groups others : List Namesakes}
    (same : groups.map Namesakes.bare = others.map Namesakes.bare) :
    Same (insertGroups env leaf type target groups)
      (insertGroups (env.anew header later) leaf type target others) := by
  induction groups generalizing others with
  | nil =>
      cases others with
      | nil => exact Parallel.refl _
      | cons another rest => cases same
  | cons group rest ih =>
      cases others with
      | nil => cases same
      | cons another others =>
          obtain ⟨first, later⟩ := List.cons.inj same
          refine Parallel.bindSame (readGroup_parallel leaf first) fun item => ?_
          refine Parallel.bindSame (ih later) fun items => ?_
          rw [(Namesakes.of_bare first).1]
          exact Parallel.refl _

end Columns

/-! ## Leaves -/

section Leaves

variable (matched : Header.Matches env.header header)
include matched

theorem planUntyped_replans :
    Replans env later (planUntyped env) (planUntyped (env.anew header later)) := by
  intro site other alike
  have leaves : other.leaf? = site.target.leaf? := alike.leaf?.symm
  unfold planUntyped
  simp only [Site.toward_target, Site.toward_scope, Site.toward_isRoot, leaves]
  cases site.target.leaf? with
  | none => exact Parallel.refl _
  | some leaf =>
      refine Parallel.branch (Parallel.refl _) (Parallel.branch ?_ ?_)
      · refine Parallel.bindSame (Parallel.refl _) fun into => ?_
        refine Parallel.bindSame (Parallel.refl _) fun claimed => ?_
        refine Parallel.bindSame ?_ fun inserts => Parallel.refl _
        exact insertGroups_parallel leaf none into (matched.namesakes claimed site.scope)
      · refine Parallel.bind (available_parallel matched site.scope) fun columns others same => ?_
        match columns, others, same with
        | [], [], _ => exact Parallel.refl _
        | [column], [another], same =>
          exact Parallel.bindSame (read_parallel leaf (List.cons.inj same).1)
            fun item => Parallel.refl _
        | _ :: _ :: _, _ :: _ :: _, same =>
          exact Parallel.bindSame (readAll_parallel leaf same) fun items => Parallel.refl _
        | [], _ :: _, same => cases same
        | _ :: _, [], same => cases same
        | [_], _ :: _ :: _, same => exact absurd same.length (by simp)
        | _ :: _ :: _, [_], same => exact absurd same.length (by simp)

theorem planLeaf_replans :
    Replans env later (planLeaf env) (planLeaf (env.anew header later)) := by
  intro site other alike
  have leaves : other.leaf? = site.target.leaf? := alike.leaf?.symm
  unfold planLeaf
  simp only [Site.toward_target, Site.toward_scope, Site.toward_isRoot, leaves]
  cases site.target.leaf? with
  | none => exact Parallel.refl _
  | some leaf =>
      refine Parallel.bind (available_parallel matched site.scope) fun columns others same => ?_
      match columns, others, same with
      | [], [], _ => exact Parallel.refl _
      | column :: _, another :: _, same =>
        exact Parallel.bindSame (read_parallel leaf (List.cons.inj same).1)
          fun item => Parallel.refl _
      | [], _ :: _, same => cases same
      | _ :: _, [], same => cases same

theorem planUntypedMember_replans :
    Replans env later (planUntypedMember env) (planUntypedMember (env.anew header later)) := by
  intro site other alike
  have takes : takesAllColumns (site.toward other) = takesAllColumns site := by
    simp only [takesAllColumns, Site.toward, alike.isAny]
  simp only [planUntypedMember, takes]
  exact Parallel.branch (planUntyped_replans matched site other alike) (Parallel.refl _)

end Leaves

/-! ## Containers -/

section Containers

variable (matched : Header.Matches env.header header)
variable (recursing : Replans env later recurse again)

include recursing in
theorem planSlots_parallel (place : Target) {slots others : List Target}
    (alike : List.Forall₂ (fun slot another => Target.Alike env.bindings later env.settings
      (slot.resolve env.bindings) (another.resolve later)) slots others) :
    Same (planSlots env recurse site slots)
      (planSlots (env.anew header later) again (site.toward place) others) := by
  induction alike with
  | nil => exact Parallel.refl _
  | @cons slot another slots others first rest ih =>
      refine Parallel.bindSame (recursing (site.slot env slot) (another.resolve later) first)
        fun found => ?_
      rw [first.resolved_default]
      have continued : ∀ item : Program,
          Same (do pure (item :: (← planSlots env recurse site slots)))
            (do pure (item :: (← planSlots (env.anew header later) again (site.toward place)
              others))) :=
        fun item => Parallel.bindSame ih fun items => Parallel.refl _
      cases found with
      | some program => exact Parallel.bindSame (Parallel.refl _) continued
      | none => exact Parallel.bindSame (Parallel.refl _) continued

include matched recursing in
theorem planTuple_replans :
    Replans env later (planTuple env recurse) (planTuple (env.anew header later) again) := by
  intro site other alike
  unfold planTuple
  rw [Site.toward_target]
  cases found : site.target with
  | tuple slots =>
      rw [found] at alike
      cases alike with
      | @tuple _ others slotsAlike =>
          have empty : slots.isEmpty = others.isEmpty := by
            rw [Bool.eq_iff_iff, List.isEmpty_iff_length_eq_zero,
              List.isEmpty_iff_length_eq_zero, slotsAlike.length_eq]
          dsimp only
          rw [empty, slotsAlike.length_eq]
          refine Parallel.branch (Parallel.refl _) ?_
          refine Parallel.bindSame (isAbsent_parallel matched) fun absent => ?_
          refine Parallel.branch (Parallel.refl _) ?_
          refine Parallel.bindSame (planSlots_parallel recursing _ slotsAlike) fun items => ?_
          exact Parallel.refl _
  | _ =>
      rw [found] at alike
      cases alike
      exact Parallel.refl _

include recursing in
theorem repeatElement_parallel (place : Target) {element another : Target}
    (alike : Target.Alike env.bindings later env.settings (element.resolve env.bindings)
      (another.resolve later)) (limit : Nat) :
    Same (repeatElement env recurse site element limit)
      (repeatElement (env.anew header later) again (site.toward place) another limit) := by
  induction limit with
  | zero => exact Parallel.refl _
  | succ limit ih =>
      refine Parallel.bindSame (Parallel.refl claims) fun before => ?_
      refine Parallel.bind (Parallel.attempt (recursing (site.element env element) _ alike))
        fun one other outcomes => ?_
      cases outcomes with
      | error failure another =>
          exact Parallel.bindSame (Parallel.refl _) fun _ => Parallel.throw failure another
      | @ok found _ same =>
          subst same
          cases found with
          | none => exact Parallel.refl _
          | some item =>
              refine Parallel.bindSame (Parallel.refl claims) fun after => ?_
              refine Parallel.branch ?_ (Parallel.refl _)
              refine Parallel.bind (Parallel.attempt ih) fun rest others outcomes => ?_
              cases outcomes with
              | error => exact Parallel.refl _
              | ok same =>
                  subst same
                  exact Parallel.refl _

include matched recursing in
theorem planElements_parallel (place : Target) {element another : Target}
    (alike : Target.Alike env.bindings later env.settings (element.resolve env.bindings)
      (another.resolve later)) :
    Same (planElements env recurse site element)
      (planElements (env.anew header later) again (site.toward place) another) := by
  have leaves : another.leaf? = element.leaf? := alike.resolved_leaf?.symm
  have lengths : (env.anew header later).header.length = env.header.length := matched.length.symm
  unfold planElements
  rw [leaves, lengths]
  cases element.leaf? with
  | none => exact repeatElement_parallel recursing place alike _
  | some leaf =>
      refine Parallel.bind (available_parallel matched site.scope) fun columns others same => ?_
      exact readAll_parallel leaf same

include matched recursing in
theorem planItems_parallel (place : Target) (type : Option SequenceType) {element another : Target}
    (alike : Target.Alike env.bindings later env.settings (element.resolve env.bindings)
      (another.resolve later)) :
    Same (planItems env recurse site type element)
      (planItems (env.anew header later) again (site.toward place) type another) := by
  refine Parallel.bindSame (isAbsent_parallel matched) fun absent => ?_
  refine Parallel.branch (Parallel.refl _) ?_
  refine Parallel.bindSame (Parallel.refl fresh) fun into => ?_
  refine Parallel.bindSame (Parallel.refl _) fun start => ?_
  refine Parallel.bindSame (planElements_parallel matched recursing place alike) fun items => ?_
  exact Parallel.refl _

include matched recursing in
theorem planSequence_replans :
    Replans env later (planSequence env recurse)
      (planSequence (env.anew header later) again) := by
  intro site other alike
  unfold planSequence
  rw [Site.toward_target]
  cases found : site.target with
  | list element =>
      rw [found] at alike
      cases alike with
      | list elements => exact planItems_parallel matched recursing _ none elements
  | sequence type =>
      rw [found] at alike
      cases alike with
      | sequence _ elements =>
          exact Parallel.branch (Parallel.refl _)
            (planItems_parallel matched recursing _ (some type) elements)
  | _ =>
      rw [found] at alike
      cases alike
      exact Parallel.refl _

include matched recursing in
theorem planArray_replans :
    Replans env later (planArray env recurse) (planArray (env.anew header later) again) := by
  intro site other alike
  unfold planArray
  rw [Site.toward_target]
  cases found : site.target with
  | array element =>
      rw [found] at alike
      cases alike with
      | @array _ another elements =>
          have leaves : another.isLeaf = element.isLeaf := by
            rw [Target.isLeaf, Target.isLeaf, elements.resolved_leaf?]
          dsimp only
          rw [leaves]
          refine Parallel.bindSame (isAbsent_parallel matched) fun absent => ?_
          refine Parallel.branch (Parallel.refl _) (Parallel.branch ?_ ?_)
          · refine Parallel.bindSame (planElements_parallel matched recursing _ elements)
              fun items => ?_
            exact Parallel.refl _
          · refine Parallel.bindSame (recursing (site.element env element) _ elements)
              fun found => ?_
            exact Parallel.refl _
  | _ =>
      rw [found] at alike
      cases alike
      exact Parallel.refl _

/-! ## Maps -/

include recursing in
theorem insertSegments_parallel (place : Target) (type : Option DictionaryType)
    {value another : Target}
    (alike : Target.Alike env.bindings later env.settings (value.resolve env.bindings)
      (another.resolve later)) (target : Register) (segments : List (String × String)) :
    Same (insertSegments env recurse site type value target segments)
      (insertSegments (env.anew header later) again (site.toward place) type another target
        segments) := by
  induction segments with
  | nil => exact Parallel.refl _
  | cons segment rest ih =>
      obtain ⟨name, key⟩ := segment
      refine Parallel.bindSame (recursing (site.member env name value none) _ alike) fun found => ?_
      have continued : ∀ first : List Step,
          Same (do pure (first ++ (← insertSegments env recurse site type value target rest)))
            (do pure (first ++ (← insertSegments (env.anew header later) again
              (site.toward place) type another target rest))) :=
        fun first => Parallel.bindSame ih fun others => Parallel.refl _
      cases found with
      | some item => exact Parallel.bindSame (Parallel.refl _) continued
      | none => exact Parallel.bindSame (Parallel.refl _) continued

include matched recursing in
theorem planInserts_parallel (place : Target) (type : Option DictionaryType)
    {value another : Target}
    (alike : Target.Alike env.bindings later env.settings (value.resolve env.bindings)
      (another.resolve later)) (target : Register) :
    Same (planInserts env recurse site type value target)
      (planInserts (env.anew header later) again (site.toward place) type another target) := by
  have leaves : another.leaf? = value.leaf? := alike.resolved_leaf?.symm
  unfold planInserts
  rw [leaves]
  cases value.leaf? with
  | none =>
      refine Parallel.bindSame (Parallel.refl claims) fun claimed => ?_
      dsimp only
      rw [matched.memberNames claimed site.scope]
      exact insertSegments_parallel recursing place type alike target _
  | some leaf =>
      refine Parallel.bindSame (Parallel.refl claims) fun claimed => ?_
      exact insertGroups_parallel leaf type target (matched.namesakes claimed site.scope)

include matched recursing in
theorem planEntries_parallel (place : Target) (type : Option DictionaryType)
    {value another : Target}
    (alike : Target.Alike env.bindings later env.settings (value.resolve env.bindings)
      (another.resolve later)) :
    Same (planEntries env recurse site type value)
      (planEntries (env.anew header later) again (site.toward place) type another) := by
  refine Parallel.bindSame (isAbsent_parallel matched) fun absent => ?_
  refine Parallel.branch (Parallel.refl _) ?_
  refine Parallel.bindSame (Parallel.refl fresh) fun into => ?_
  refine Parallel.bindSame (Parallel.refl _) fun start => ?_
  refine Parallel.bindSame (planInserts_parallel matched recursing place type alike start.result)
    fun inserts => ?_
  exact Parallel.refl _

include matched recursing in
theorem planDictionary_replans :
    Replans env later (planDictionary env recurse)
      (planDictionary (env.anew header later) again) := by
  intro site other alike
  unfold planDictionary
  rw [Site.toward_target]
  cases found : site.target with
  | map value =>
      rw [found] at alike
      cases alike with
      | map values => exact planEntries_parallel matched recursing _ none values
  | dictionary type =>
      rw [found] at alike
      cases alike with
      | dictionary _ values =>
          exact Parallel.branch (Parallel.refl _)
            (planEntries_parallel matched recursing _ (some type) values)
  | _ =>
      rw [found] at alike
      cases alike
      exact Parallel.refl _

end Containers

end Planning

end Unflatten
