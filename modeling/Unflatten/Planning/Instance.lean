import Unflatten.Planning.Dictionary

/-!
# Object types

An instance comes from a factory or from the constructor that is chosen for the scope. After that
every assignable property is set from the columns that are left, sinks last. A type with subtype
rules gets one branch for each rule, planned against the same claims, and keeps the claims of all of
them; where an instance exists already it is updated as an instance of the declared type.
-/

set_option autoImplicit false

namespace Unflatten.Planning

variable (env : Environment) (recurse : Planner)

/-- A sink is a member of its own that sees the unnamed columns only. -/
def planSink (site : Site) (target : Target) : Planning (Option Program) := do
  let nameless := env.header.nameless (← claims) site.scope env.settings.sentinel
  if nameless.isEmpty then pure none
  else recurse ⟨target.resolve env.bindings, .among nameless, none, .member⟩

/-! ## Constructor arguments -/

def planNamedArgument (site : Site) (parameter : Parameter) : Planning (Option Program) := do
  let column? ← find? env site.scope (foldName parameter.name)
  match parameter.target.leaf? with
  | some leaf =>
    match column? with
    | some column => pure (some (← read env column leaf))
    | none => pure none
  | none =>
    if column?.isSome || (← hasMember env site.scope parameter.name) then
      recurse (site.member env parameter.name parameter.target none)
    else pure none

/-- A parameter without columns gets the default of its target. -/
def planArgument (site : Site) (parameter : Parameter) : Planning Program := do
  match ← planNamedArgument env recurse site parameter with
  | some program => pure program
  | none =>
    let sink? ←
      if parameter.isSink then planSink env recurse site parameter.target else pure none
    match sink? with
    | some program => pure program
    | none => constant parameter.target.defaultValue

def planArguments (site : Site) : List Parameter → Planning (List Program)
  | [] => pure []
  | parameter :: rest => do
    let first ← planArgument env recurse site parameter
    let others ← planArguments site rest
    pure (first :: others)

def chooseConstructor (site : Site) (type : ObjectType) : Planning Constructor := do
  let view ← view env site.scope
  match type.chooseConstructor (env.settings.ofType? type.name) view env.settings with
  | .ok constructor => pure constructor
  | .error failure => throw failure

def planInstance (site : Site) (type : ObjectType) (factory : Option Factory) :
    Planning Program := do
  let own := (env.settings.ofType? type.name).bind TypePolicy.factory
  match factory.or own with
  | some factory =>
    let into ← fresh
    pure (Program.single (.produce factory into) into)
  | none =>
    let constructor ← chooseConstructor env site type
    let arguments ← planArguments env recurse site constructor.parameters
    let into ← fresh
    pure
      ⟨arguments.flatMap ProgramOf.steps
          ++ [.construct type constructor (arguments.map ProgramOf.result) into],
        into⟩

/-! ## Properties -/

def setSteps (target : Register) (field : String) (value : Option Program) : List Step :=
  match value with
  | some program => program.steps ++ [.assign target field program.result]
  | none => []

/-- A leaf property needs a column of exactly its name. Other properties are members with their
present value to update. -/
def setProperty (site : Site) (target : Register) (property : Property) :
    Planning (List Step) := do
  match property.target.leaf?.filter fun leaf => !leaf.isAny with
  | some leaf =>
    match ← find? env site.scope (foldName property.name) with
    | some column =>
      pure (setSteps target property.name (some (← read env column leaf)))
    | none => pure []
  | none =>
    let existing ← fresh
    match ← recurse (site.member env property.name property.target (some existing)) with
    | some value =>
      pure (.project target property.name existing :: setSteps target property.name (some value))
    | none => pure []

def setSink (site : Site) (target : Register) (property : Property) : Planning (List Step) := do
  pure (setSteps target property.name (← planSink env recurse site property.target))

def setEach (assign : Property → Planning (List Step)) : List Property → Planning (List Step)
  | [] => pure []
  | property :: rest => do
    let first ← assign property
    let others ← setEach assign rest
    pure (first ++ others)

def setProperties (site : Site) (type : ObjectType) (target : Register) :
    Planning (List Step) := do
  let assignable := type.properties.filter PropertyOf.isAssignable
  let plain ←
    setEach (setProperty env recurse site target)
      (assignable.filter fun property => !property.isSink)
  let sinks ← setEach (setSink env recurse site target) (assignable.filter PropertyOf.isSink)
  pure (plain ++ sinks)

/-! ## Instances -/

def planAssigned (site : Site) (type : ObjectType) (start : Program) : Planning Program := do
  let assigns ← setProperties env recurse site type start.result
  pure ⟨start.steps ++ assigns, start.result⟩

def planConcrete (site : Site) (type : ObjectType) (factory : Option Factory) :
    Planning Program := do
  let start ← planInstance env recurse site type factory
  planAssigned env recurse site type start

/-- An abstract type without a factory is stood for by its default type. -/
def planSingle (site : Site) (declared : ObjectType) (own : Option TypePolicy) :
    Planning Program := do
  let factory := own.bind TypePolicy.factory
  let concrete :=
    match own.bind TypePolicy.default with
    | some default => if declared.isAbstract && factory.isNone then default else declared
    | none => declared
  let create ← planInstance env recurse site concrete factory
  let start ← reuseOrCreate site .object create
  planAssigned env recurse site concrete start

/-- One branch for each rule, all from the claims `start`, with what each has claimed. -/
def planBranches (site : Site) (start : Claims) :
    List SubtypeCase → Planning (List (Branch × Claims))
  | [] => pure []
  | rule :: rest => do
    setClaims start
    let concrete := rule.target.objectType
    let program ← planConcrete env recurse site concrete rule.target.factory?
    let claimed ← claims
    let others ← planBranches site start rest
    pure ((⟨rule.accepts, concrete.name, program⟩, claimed) :: others)

/-- What is built where no rule accepts the row. -/
def planFallback (site : Site) (declared : ObjectType) (own : TypePolicy) :
    Planning Program := do
  match own.default with
  | some default => planConcrete env recurse site default none
  | none =>
    if declared.isAbstract then
      let into ← fresh
      pure (Program.single (.fail (.noSubtype declared.name)) into)
    else planConcrete env recurse site declared none

def planPolymorphic (site : Site) (declared : ObjectType) (own : TypePolicy) :
    Planning Program := do
  let start ← claims
  let branches ← planBranches env recurse site start own.subtypes
  setClaims start
  let fallback ← planFallback env recurse site declared own
  let fallbackClaims ← claims
  let into ← fresh
  let select := Program.single (.select (branches.map Prod.fst) fallback into) into
  let outcomes := branches.map Prod.snd ++ [fallbackClaims]
  match site.existing with
  | none =>
    setClaims (outcomes.foldl Claims.merge start)
    pure select
  | some existing =>
    setClaims start
    let update ← planAssigned env recurse site declared (Program.keep existing)
    let updateClaims ← claims
    let reused ← fresh
    setClaims ((outcomes ++ [updateClaims]).foldl Claims.merge start)
    pure (Program.single (.reuse existing .object update select reused) reused)

def planObject : Planner := fun site => do
  match site.target with
  | .object declared =>
    if ← isAbsent env site then pure none
    else
      match env.settings.ofType? declared.name with
      | some own =>
        if own.subtypes.isEmpty then
          pure (some (← planSingle env recurse site declared (some own)))
        else pure (some (← planPolymorphic env recurse site declared own))
      | none => pure (some (← planSingle env recurse site declared none))
  | _ => pure none

end Unflatten.Planning
