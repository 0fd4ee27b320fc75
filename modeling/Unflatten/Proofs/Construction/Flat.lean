import Unflatten.Proofs.Construction.Columns
import Unflatten.Proofs.Planning.Assembly

/-!
# Planning arguments and properties

The arguments of a constructor and the properties that are set afterwards take the columns of their
names and come to the cells of these. A property whose column is taken is left alone, unless it is
untyped: an untyped member without columns is set to null.
-/

set_option autoImplicit false

namespace Unflatten.Planning

variable {env : Environment} {recurse : Planner} {row : Row} {site : Site} {pass next : Pass}
variable {type : ObjectType} {names : List String} {existing : Option Register}
variable {program : Program}

section Root

variable (atRoot : site.scope = .root) (suits : env.header.Suits type env.settings.separator)
include atRoot

/-! ## Arguments -/

section Arguments

variable {parameter : Parameter}

theorem planNamedArgument_leaf {leaf : Leaf} {found : Option Program}
    (isLeaf : parameter.target.leaf? = some leaf) (taken : env.header.Taken pass.claims names)
    (unknown : foldName parameter.name ∉ names)
    (reads : Gives
      (match env.header.named? parameter.name with
        | some column => do pure (some (← read env column leaf))
        | none => pure none) pass found next) :
    Gives (planNamedArgument env recurse site parameter) pass found next := by
  unfold planNamedArgument
  refine gives_bind.mpr ⟨_, _, gives_find?.mpr ⟨rfl, rfl⟩, ?_⟩
  rw [atRoot, taken.find?, if_neg unknown, isLeaf]
  exact reads

include suits

theorem planArgument_evaluates (isLeaf : parameter.target.isLeaf = true)
    (sinks : parameter.isSink = true → (env.header.named? parameter.name).isSome = true)
    (sized : pass.claims.length = env.header.length) (taken : env.header.Taken pass.claims names)
    (unknown : foldName parameter.name ∉ names) :
    ∃ program next, Gives (planArgument env recurse site parameter) pass program next ∧
      Evaluates row none program next
        (env.header.cell? env.rules row parameter.name parameter.target) ∧
      env.header.Taken next.claims (foldName parameter.name :: names) := by
  obtain ⟨leaf, isLeaf⟩ := Option.isSome_iff_exists.mp isLeaf
  have named {found : Option Program} {next : Pass} :=
    @planNamedArgument_leaf env recurse site pass next names atRoot parameter leaf found isLeaf
      taken unknown
  unfold Header.cell?
  rw [isLeaf]
  cases found : env.header.named? parameter.name with
  | some column =>
      have reads : Gives (read env column leaf) pass _ _ := gives_read.mpr ⟨rfl, rfl⟩
      rw [found] at named
      refine ⟨_, _, ?_, read_evaluates reads, taken.claim suits sized found⟩
      exact gives_bind.mpr ⟨_, _, named (gives_planned.mpr ⟨_, rfl, reads⟩),
        gives_pure.mpr ⟨rfl, rfl⟩⟩
  | none =>
      have noSink : parameter.isSink = false := by
        cases isSink : parameter.isSink with
        | false => rfl
        | true =>
            have some := sinks isSink
            rw [found] at some
            cases some
      have defaults : Gives (constant parameter.target.defaultValue) pass _ _ :=
        gives_constant.mpr ⟨rfl, rfl⟩
      rw [found] at named
      refine ⟨_, _, ?_, constant_evaluates defaults, taken.missing found⟩
      refine gives_bind.mpr ⟨none, pass, named (gives_pure.mpr ⟨rfl, rfl⟩), ?_⟩
      simp only [noSink]
      exact gives_bind.mpr ⟨none, pass, gives_pure.mpr ⟨rfl, rfl⟩, defaults⟩

/-- The names of the parameters differ, so that each argument finds its own column unclaimed. -/
theorem planArguments_gathers (row : Row) (reliable : Reliable env recurse)
    {parameters : List Parameter}
    (areLeaves : ∀ parameter ∈ parameters, parameter.target.isLeaf = true)
    (sinks : ∀ parameter ∈ parameters, parameter.isSink = true →
      (env.header.named? parameter.name).isSome = true)
    (distinct : parameters.Pairwise fun one other => foldName one.name ≠ foldName other.name)
    (sized : pass.claims.length = env.header.length) (taken : env.header.Taken pass.claims names)
    (unknown : ∀ parameter ∈ parameters, foldName parameter.name ∉ names) :
    ∃ arguments next, Gives (planArguments env recurse site parameters) pass arguments next ∧
      Gathers row pass arguments
        (parameters.map fun parameter =>
          env.header.cell? env.rules row parameter.name parameter.target) next ∧
      env.header.Taken next.claims
        (parameters.map (fun parameter => foldName parameter.name) ++ names) := by
  induction parameters generalizing pass names with
  | nil => exact ⟨[], pass, gives_pure.mpr ⟨rfl, rfl⟩, Gathers.nil, taken⟩
  | cons parameter rest ih =>
      obtain ⟨apart, distinct⟩ := List.pairwise_cons.mp distinct
      obtain ⟨first, middle, argument, evaluates, takenFirst⟩ :=
        planArgument_evaluates atRoot suits (areLeaves parameter (by simp))
          (sinks parameter (by simp)) sized taken (unknown parameter (by simp))
      have planned := planArgument_planned suits.indexed reliable sized argument
      obtain ⟨others, next, planRest, gathers, takenRest⟩ := ih
        (fun other member => areLeaves other (by simp [member]))
        (fun other member => sinks other (by simp [member])) distinct
        (planned.block.onward.length.trans sized) takenFirst (fun other member => by
          rw [List.mem_cons, not_or]
          exact ⟨(apart other member).symm, unknown other (by simp [member])⟩)
      refine ⟨first :: others, next, ?_, Gathers.cons planned evaluates gathers, ?_⟩
      · exact gives_bind.mpr ⟨_, _, argument, gives_bind.mpr ⟨_, _, planRest,
          gives_pure.mpr ⟨rfl, rfl⟩⟩⟩
      · exact takenRest.congr fun _ => List.perm_middle.mem_iff

end Arguments

end Root

/-! ## Untyped members -/

section Members

variable {levels : Nat} {leaf : Leaf} {column : HeaderColumn}

theorem isAny_cases {target : Target} (isLeaf : target.leaf? = some leaf)
    (isAny : leaf.isAny = true) :
    target.isAny = true ∨ ∃ inner, target = .nullable inner := by
  cases target with
  | any => exact Or.inl rfl
  | dynamic => exact Or.inl rfl
  | nullable inner => exact Or.inr ⟨inner, rfl⟩
  | scalar type =>
      cases isLeaf
      cases isAny
  | enum type =>
      cases isLeaf
      cases isAny
  | _ => cases isLeaf

theorem planUntypedMember_typed (typed : site.target.isAny = false) :
    Gives (planUntypedMember env site) pass none pass := by
  rw [planUntypedMember, takesAllColumns, typed]
  exact gives_pure.mpr ⟨rfl, rfl⟩

variable (isMember : site.role = .member)
include isMember

theorem isRoot_member : site.isRoot = false := by
  rw [Site.isRoot, isMember]
  rfl

theorem planUntypedMember_any (isAny : site.target.isAny = true) :
    planUntypedMember env site = planUntyped env site := by
  rw [planUntypedMember, takesAllColumns, isAny, isMember]
  rfl

theorem standard_offered (isLeaf : site.target.leaf? = some leaf) (isAny : leaf.isAny = true)
    (offered : env.header.available pass.claims site.scope = [column])
    (reads : Gives (read env column leaf) pass program next) :
    Gives (standard env (levels + 1) site) pass (some program) next := by
  have below := isRoot_member isMember
  by_cases whole : site.target.isAny = true
  · refine inOrder_first ?_
    rw [planUntypedMember_any isMember whole, planUntyped, isLeaf]
    simp only [isAny, below]
    refine gives_bind.mpr ⟨_, _, gives_available.mpr ⟨rfl, rfl⟩, ?_⟩
    rw [offered]
    exact gives_planned.mpr ⟨_, rfl, reads⟩
  · refine inOrder_later (planUntypedMember_typed (by simpa using whole)) ?_
    refine inOrder_first ?_
    rw [planLeaf, isLeaf]
    refine gives_bind.mpr ⟨_, _, gives_available.mpr ⟨rfl, rfl⟩, ?_⟩
    rw [offered]
    exact gives_planned.mpr ⟨_, rfl, reads⟩

theorem standard_null (isAny : site.target.isAny = true)
    (offered : env.header.available pass.claims site.scope = [])
    (isNull : Gives (constant .null) pass program next) :
    Gives (standard env (levels + 1) site) pass (some program) next := by
  have below := isRoot_member isMember
  obtain ⟨leaf, isLeaf, untyped⟩ : ∃ leaf, site.target.leaf? = some leaf ∧ leaf.isAny = true := by
    cases isTarget : site.target with
    | any => exact ⟨_, rfl, rfl⟩
    | dynamic => exact ⟨_, rfl, rfl⟩
    | _ =>
        rw [isTarget] at isAny
        cases isAny
  refine inOrder_first ?_
  rw [planUntypedMember_any isMember isAny, planUntyped, isLeaf]
  simp only [untyped, below]
  refine gives_bind.mpr ⟨_, _, gives_available.mpr ⟨rfl, rfl⟩, ?_⟩
  rw [offered]
  exact gives_planned.mpr ⟨_, rfl, isNull⟩

theorem standard_absent {inner : Target} (isNullable : site.target = .nullable inner)
    (offered : env.header.available pass.claims site.scope = []) :
    Gives (standard env (levels + 1) site) pass none pass := by
  have below := isRoot_member isMember
  have declined : Gives (planLeaf env site) pass none pass := by
    rw [planLeaf]
    split
    · exact gives_pure.mpr ⟨rfl, rfl⟩
    · refine gives_bind.mpr ⟨_, _, gives_available.mpr ⟨rfl, rfl⟩, ?_⟩
      rw [offered]
      simp only [below]
      exact gives_pure.mpr ⟨rfl, rfl⟩
  refine inOrder_later (planUntypedMember_typed (by rw [isNullable]; rfl)) ?_
  refine inOrder_later declined ?_
  refine inOrder_later (by rw [planTuple, isNullable]; exact gives_pure.mpr ⟨rfl, rfl⟩) ?_
  refine inOrder_later (by rw [planArray, isNullable]; exact gives_pure.mpr ⟨rfl, rfl⟩) ?_
  refine inOrder_later (by rw [planDictionary, isNullable]; exact gives_pure.mpr ⟨rfl, rfl⟩) ?_
  refine inOrder_later (by rw [planSequence, isNullable]; exact gives_pure.mpr ⟨rfl, rfl⟩) ?_
  refine inOrder_later (by rw [planObject, isNullable]; exact gives_pure.mpr ⟨rfl, rfl⟩) ?_
  exact gives_pure.mpr ⟨rfl, rfl⟩

end Members

/-! ## Properties -/

/-- The name of the property is taken. Its field is set to its cell, or nothing has to be done: the
cell has been there before, or the default is right. -/
def Settles (env : Environment) (row : Row) (target : Register) (property : Property)
    (names : List String) (steps : List Step) (next : Pass) : Prop :=
  env.header.Taken next.claims (foldName property.name :: names) ∧
    ((steps = [] ∧ (foldName property.name ∈ names ∨
        env.header.cells env.rules row property = some property.target.defaultValue)) ∨
      foldName property.name ∉ names ∧ ∀ before, Alters row target steps next before
        ((env.header.cells env.rules row property).map fun value =>
          before.setField property.name value))

section Properties

variable {property : Property} {target : Register} {levels : Nat} {leaf : Leaf}

theorem resolve_leaf {isTarget : Target} {bindings : Bindings}
    (isLeaf : isTarget.leaf? = some leaf) :
    isTarget.resolve bindings = isTarget := by
  cases isTarget with
  | reference ref => cases isLeaf
  | _ => rfl

theorem cells_named {column : HeaderColumn} (isLeaf : property.target.leaf? = some leaf)
    (found : env.header.named? property.name = some column) :
    env.header.cells env.rules row property =
      (readColumn row ⟨column.index, column.name⟩
        (Conversion.select env.rules leaf column.type)).toOption := by
  rw [Header.cells, Header.cell?, isLeaf, found]

theorem cells_missing (missing : env.header.named? property.name = none) :
    env.header.cells env.rules row property = some property.target.defaultValue := by
  rw [Header.cells, Header.cell?, missing]
  cases property.target.leaf? with
  | some leaf => rfl
  | none => rfl

/-! ### Untyped properties

An untyped property is planned as a member, from the columns that its site is offered. -/

section Untyped

variable (isLeaf : property.target.leaf? = some leaf) (isAny : leaf.isAny = true)
include isLeaf isAny

omit isAny in
theorem member_target (env : Environment) (site : Site) (existing : Option Register) :
    (site.member env property.name property.target existing).target = property.target :=
  resolve_leaf isLeaf

theorem untyped_filter : property.target.leaf?.filter (fun leaf => !leaf.isAny) = none := by
  rw [isLeaf]
  simp [isAny]

theorem setProperty_absent (nullable : property.target.isAny = false)
    (offered : env.header.available pass.advanced.claims
      (site.member env property.name property.target (some pass.nextRegister)).scope = []) :
    Gives (setProperty env (standard env (levels + 1)) site target property) pass []
      pass.advanced := by
  obtain ⟨inner, isNullable⟩ := (isAny_cases isLeaf isAny).resolve_left (by simp [nullable])
  have isTarget := (member_target isLeaf env site (some pass.nextRegister)).trans isNullable
  have absent := @standard_absent env _ _ levels rfl inner isTarget offered
  exact setProperty_member (untyped_filter isLeaf isAny) absent

theorem setProperty_null (known : target < pass.nextRegister)
    (untyped : property.target.isAny = true)
    (offered : env.header.available pass.advanced.claims
      (site.member env property.name property.target (some pass.nextRegister)).scope = []) :
    ∃ steps next,
      Gives (setProperty env (standard env (levels + 1)) site target property) pass steps next ∧
      next.claims = pass.claims ∧ ∀ before, Alters row target steps next before
        (some (before.setField property.name property.target.defaultValue)) := by
  have nulls : Gives (constant .null) pass.advanced _ _ := gives_constant.mpr ⟨rfl, rfl⟩
  have default : property.target.defaultValue = .null := by
    cases isTarget : property.target with
    | any => rfl
    | dynamic => rfl
    | _ =>
        rw [isTarget] at untyped
        cases untyped
  rw [← member_target isLeaf env site (some pass.nextRegister)] at untyped
  have planned := @standard_null _ _ _ _ _ levels rfl untyped offered nulls
  refine ⟨_, _, setProperty_member (untyped_filter isLeaf isAny) planned, rfl, fun before => ?_⟩
  rw [default]
  exact Alters.projected (constant_planned nulls) (constant_evaluates nulls) known (by simp)

theorem setProperty_offered {column : HeaderColumn} (known : target < pass.nextRegister)
    (unclaimed : Unclaimed pass [column])
    (offered : env.header.available pass.advanced.claims
      (site.member env property.name property.target (some pass.nextRegister)).scope =
        [column]) :
    ∃ steps next,
      Gives (setProperty env (standard env (levels + 1)) site target property) pass steps next ∧
      next.claims = pass.claims.claim column.index ∧ ∀ before, Alters row target steps next before
        ((readColumn row ⟨column.index, column.name⟩
          (Conversion.select env.rules leaf column.type)).toOption.map fun value =>
            before.setField property.name value) := by
  have reads : Gives (read env column leaf) pass.advanced _ _ := gives_read.mpr ⟨rfl, rfl⟩
  have isMember := (congrArg Target.leaf?
    (member_target isLeaf env site (some pass.nextRegister))).trans isLeaf
  have planned := @standard_offered _ _ _ _ _ levels _ _ rfl isMember isAny offered reads
  refine ⟨_, _, setProperty_member (untyped_filter isLeaf isAny) planned, rfl, fun before => ?_⟩
  exact Alters.projected (read_planned unclaimed.advanced reads).1 (read_evaluates reads) known
    (by simp)

end Untyped

/-! ### Settling -/

variable (atRoot : site.scope = .root) (suits : env.header.Suits type env.settings.separator)
variable (sized : pass.claims.length = env.header.length) (known : target < pass.nextRegister)
variable (taken : env.header.Taken pass.claims names)
include atRoot suits sized known taken

theorem setProperty_scalar_settles (isLeaf : property.target.leaf? = some leaf)
    (isScalar : leaf.isAny = false) :
    ∃ steps next, Gives (setProperty env recurse site target property) pass steps next ∧
      Settles env row target property names steps next := by
  have scalar : property.target.leaf?.filter (fun leaf => !leaf.isAny) = some leaf := by
    rw [isLeaf]
    simp [isScalar]
  have search := @Header.Taken.find? _ property.name _ _ taken
  rw [← atRoot] at search
  have sets {steps : List Step} {next : Pass} :=
    @setProperty_leaf env recurse site pass next leaf property target steps scalar
  rw [search] at sets
  by_cases isTaken : foldName property.name ∈ names
  · rw [if_pos isTaken] at sets
    exact ⟨[], pass, sets (gives_pure.mpr ⟨rfl, rfl⟩), taken.known isTaken,
      Or.inl ⟨rfl, Or.inl isTaken⟩⟩
  · rw [if_neg isTaken] at sets search
    cases found : env.header.named? property.name with
    | none =>
        rw [found] at sets
        exact ⟨[], pass, sets (gives_pure.mpr ⟨rfl, rfl⟩), taken.missing found,
          Or.inl ⟨rfl, Or.inr (cells_missing found)⟩⟩
    | some column =>
        have reads : Gives (read env column leaf) pass _ _ := gives_read.mpr ⟨rfl, rfl⟩
        have planned := (read_planned
          (Header.find?_unclaimed suits.indexed sized (search.trans found)) reads).1
        rw [found] at sets
        refine ⟨_, _, sets (gives_bind.mpr ⟨_, _, reads, gives_pure.mpr ⟨rfl, rfl⟩⟩),
          taken.claim suits sized found, Or.inr ⟨isTaken, fun before => ?_⟩⟩
        rw [cells_named isLeaf found]
        exact Alters.assigned planned (read_evaluates reads) known

theorem setProperty_untyped_settles (isProperty : property ∈ type.properties)
    (isLeaf : property.target.leaf? = some leaf) (isAny : leaf.isAny = true)
    (typed : foldName property.name ∈ names → property.target.isAny = false) :
    ∃ steps next,
      Gives (setProperty env (standard env (levels + 1)) site target property) pass steps next ∧
      Settles env row target property names steps next := by
  have offers : env.header.available pass.advanced.claims
      (site.member env property.name property.target (some pass.nextRegister)).scope =
        if foldName property.name ∈ names then []
        else (env.header.named? property.name).toList := by
    simp only [Site.member, atRoot]
    exact taken.member suits isProperty
  by_cases isTaken : foldName property.name ∈ names
  · rw [if_pos isTaken] at offers
    exact ⟨[], pass.advanced, setProperty_absent isLeaf isAny (typed isTaken) offers,
      taken.known isTaken, Or.inl ⟨rfl, Or.inl isTaken⟩⟩
  · rw [if_neg isTaken] at offers
    cases found : env.header.named? property.name with
    | none =>
        rw [found] at offers
        cases untyped : property.target.isAny with
        | false =>
            exact ⟨[], pass.advanced, setProperty_absent isLeaf isAny untyped offers,
              taken.missing found, Or.inl ⟨rfl, Or.inr (cells_missing found)⟩⟩
        | true =>
            obtain ⟨steps, next, set, same, alters⟩ :=
              setProperty_null isLeaf isAny known untyped offers
            refine ⟨steps, next, set, ?_, Or.inr ⟨isTaken, fun before => ?_⟩⟩
            · rw [same]
              exact taken.missing found
            · rw [cells_missing found]
              exact alters before
    | some column =>
        rw [found] at offers
        have unclaimed : Unclaimed pass [column] := by
          have search := @Header.Taken.find? _ property.name _ _ taken
          rw [if_neg isTaken, found] at search
          exact Header.find?_unclaimed suits.indexed sized search
        obtain ⟨steps, next, set, claims, alters⟩ :=
          setProperty_offered isLeaf isAny known unclaimed offers
        refine ⟨steps, next, set, ?_, Or.inr ⟨isTaken, fun before => ?_⟩⟩
        · rw [claims]
          exact taken.claim suits sized found
        · rw [cells_named isLeaf found]
          exact alters before

end Properties

end Unflatten.Planning
