import Unflatten.Condition.Basic
import Unflatten.Settings
import Unflatten.Shape.Member

/-!
# Shapes

A shape is an outline with its types built: the root target, the settings, the types of columns and
the custom types by name. Types may be declared in any order. Object types refer to one another
through references, which are bound as the types are built; what a type extends, and the sequences
and dictionaries that it mentions, are built first, and a cycle of these is refused.
-/

set_option autoImplicit false

namespace Unflatten

def SettingsOutline.toSettings (outline : SettingsOutline) : Settings :=
  { separator := outline.separator, sentinel := outline.sentinel }

structure Shape where
  root : Target
  settings : Settings
  declaredTypes : Entries ScalarType
  types : Entries Target
  bindings : Bindings

namespace Shape

def typeKey (name : String) : String :=
  Text.asciiLower name

def lookUp (shape : Shape) (name : String) : Option Target :=
  shape.types.get? (typeKey name)

inductive TypeDefinition where
  | object (definition : ObjectDefinition)
  | sequence (definition : SequenceDefinition)
  | dictionary (definition : DictionaryDefinition)

namespace TypeDefinition

def name : TypeDefinition → String
  | object definition => definition.name
  | sequence definition => definition.name
  | dictionary definition => definition.name

def isObject : TypeDefinition → Bool
  | object _ => true
  | _ => false

def expressions : TypeDefinition → List String
  | object definition =>
    definition.properties.map PropertyDefinition.type
      ++ definition.constructors.flatMap fun constructor =>
        constructor.parameters.map ParameterDefinition.type
  | sequence definition => [definition.element]
  | dictionary definition => [definition.value]

def base? : TypeDefinition → Option String
  | object definition => definition.base
  | _ => none

end TypeDefinition

/-- What has been built so far. `next` is the first identity that is not in use. -/
structure Draft where
  definitions : Entries TypeDefinition := []
  references : Entries Reference := []
  built : Entries Target := []
  bindings : Bindings := []
  next : Nat

abbrev Building (α : Type) := StateT Draft (Except Failure) α

def refuse {α : Type} (fault : ShapeFault) : Building α :=
  throw (.shape fault)

def freshIdent : Building Nat := do
  let draft ← get
  set { draft with next := draft.next + 1 }
  pure draft.next

def register (name : String) (target : Target) : Building Unit :=
  modify fun draft => { draft with built := draft.built.insert (typeKey name) target }

/-! ## Declarations -/

def checkUndeclared (name : String) : Building Unit := do
  let draft ← get
  if (draft.built.get? (typeKey name)).isSome || (draft.definitions.get? (typeKey name)).isSome
  then refuse (.declaredTwice name)
  else pure ()

def successor (value : FixedInt .int64) : FixedInt .int64 :=
  (FixedInt.ofInt? .int64 (value.val + 1)).getD value

/-- A variant without a value gets the next one after the variant before it. -/
def variants (next : FixedInt .int64) :
    List VariantDefinition → List (String × FixedInt .int64)
  | [] => []
  | .named name :: rest => (name, next) :: variants (successor next) rest
  | .valued name value :: rest => (name, value) :: variants (successor value) rest

def declareEnum (definition : EnumDefinition) : Building Unit := do
  checkUndeclared definition.name
  let ident ← freshIdent
  register definition.name
    (.enum ⟨ident, definition.name, variants (FixedInt.zero .int64) definition.variants⟩)

def declare (definition : TypeDefinition) : Building Unit := do
  checkUndeclared definition.name
  let key := typeKey definition.name
  if definition.isObject then
    let ident ← freshIdent
    modify fun draft =>
      { draft with references := draft.references.insert key ⟨ident, definition.name⟩ }
  modify fun draft => { draft with definitions := draft.definitions.insert key definition }

def definitionsOf (outline : ShapeOutline) : List TypeDefinition :=
  outline.types.map .object ++ outline.sequences.map .sequence
    ++ outline.dictionaries.map .dictionary

/-! ## Types -/

/-- A built type, or a reference to an object type that is not built yet. -/
def Draft.lookUp (draft : Draft) (name : String) : Option Target :=
  match draft.built.get? (typeKey name) with
  | some target => some target
  | none => (draft.references.get? (typeKey name)).map .reference

def parse (text : String) : Building Target := do
  let draft ← get
  match readTarget draft.lookUp text with
  | .ok target => pure target
  | .error failure => throw failure

def objectNamed (place : TypePlace) (name : String) : Building ObjectType := do
  let draft ← get
  match readObjectType draft.lookUp draft.bindings place name with
  | .ok type => pure type
  | .error failure => throw failure

def buildProperty (definition : PropertyDefinition) : Building Property := do
  pure (definition.declare (← parse definition.type))

def buildParameter (definition : ParameterDefinition) : Building Parameter := do
  pure (definition.declare (← parse definition.type))

def buildConstructor (definition : ConstructorDefinition) : Building Constructor := do
  let parameters ← definition.parameters.mapM buildParameter
  pure (definition.declare (← freshIdent) parameters)

/-- Properties of the base that the definition does not declare itself. -/
def inherited (base : ObjectType) (definition : ObjectDefinition) : List Property :=
  base.properties.filter fun property =>
    !definition.properties.any fun own => Text.equalIgnoringCase own.name property.name

def buildObject (definition : ObjectDefinition) : Building ObjectType := do
  let fromBase ←
    match definition.base with
    | some base =>
      let base ← objectNamed (.base definition.name) base
      pure (inherited base definition)
    | none => pure []
  let own ← definition.properties.mapM buildProperty
  let constructors ← definition.constructors.mapM buildConstructor
  let ident ← freshIdent
  let implicit ← freshIdent
  pure
    (ObjectTypeOf.declare ident definition.name definition.isAbstract (fromBase ++ own) implicit
      constructors)

def bindReference (key : String) (type : ObjectType) : Building Unit := do
  let draft ← get
  match draft.references.get? key with
  | none => pure ()
  | some ref =>
    match ref.bind type draft.bindings with
    | .ok bindings => set { draft with bindings }
    | .error fault => refuse (.binding fault)

def build (definition : TypeDefinition) : Building Target := do
  match definition with
  | .object definition =>
    let type ← buildObject definition
    bindReference (typeKey definition.name) type
    pure (.object type)
  | .sequence definition =>
    let element ← parse definition.element
    pure (.sequence (SequenceTypeOf.declare (← freshIdent) definition.name element))
  | .dictionary definition =>
    let value ← parse definition.value
    pure (.dictionary (DictionaryTypeOf.declare (← freshIdent) definition.name value))

/-! ## Order of building -/

def namesIn (expression : String) : List String :=
  (Text.splitOn (fun c => !TypeExpression.isNameChar c) expression).filter fun name =>
    !name.isEmpty

/-- The keys of the definitions that are built before this one: sequences and dictionaries that it
mentions, and its base. -/
def requirements (definitions : Entries TypeDefinition) (definition : TypeDefinition) :
    List String :=
  let mentioned := (definition.expressions.flatMap namesIn).map typeKey
  let isContainer := fun key =>
    match definitions.get? key with
    | some other => !other.isObject
    | none => false
  let base := (definition.base?.map typeKey).filter fun key => (definitions.get? key).isSome
  mentioned.filter isContainer ++ base.toList

def buildEach (buildNamed : String → Building Unit) : List String → Building Unit
  | [] => pure ()
  | key :: rest => do
    buildNamed key
    buildEach buildNamed rest

/-- Builds the type of a key and before it all that it requires. The path holds the keys that are
being visited, so it is never longer than the list of definitions, which is the limit. -/
def buildNamed : Nat → List String → String → Building Unit
  | 0, path, key => refuse (.cycle (path ++ [key]))
  | limit + 1, path, key => do
    let draft ← get
    if (draft.built.get? key).isSome then pure ()
    else
      match draft.definitions.get? key with
      | none => pure ()
      | some definition =>
        if path.contains key then refuse (.cycle (path ++ [key]))
        else
          buildEach (buildNamed limit (path ++ [key])) (requirements draft.definitions definition)
          let target ← build definition
          modify fun draft => { draft with built := draft.built.insert key target }

def buildTypes (outline : ShapeOutline) : Building Unit := do
  outline.enums.forM declareEnum
  (definitionsOf outline).forM declare
  let definitions := (← get).definitions
  buildEach (buildNamed (definitions.length + 1) []) definitions.names

/-! ## Settings -/

def buildSubtype (type : String) (definition : SubtypeDefinition) : Building SubtypeCase := do
  let concrete ← objectNamed (.subtype type) definition.type
  match Condition.ofText definition.condition with
  | .error failure => throw failure
  | .ok condition =>
    pure ⟨← freshIdent, condition.accepts, .type concrete⟩

def preferredOf (definition : ObjectDefinition) (type : ObjectType) :
    Building (Option Constructor) := do
  match definition.preferred with
  | none => pure none
  | some position =>
    match type.constructors[position]? with
    | some constructor => pure (some constructor)
    | none => refuse (.noConstructor definition.name position)

def defaultType (definition : ObjectDefinition) : Building (Option ObjectType) := do
  match definition.default with
  | none => pure none
  | some name => pure (some (← objectNamed (.default definition.name) name))

def typePolicy (definition : ObjectDefinition) : Building (Option TypePolicy) := do
  let type ← objectNamed .configured definition.name
  let preferred ← preferredOf definition type
  let default ← defaultType definition
  let subtypes ← definition.subtypes.mapM (buildSubtype definition.name)
  if preferred.isNone && default.isNone && subtypes.isEmpty then pure none
  else pure (some { preferred, default, subtypes })

def configureAll (settings : Settings) : List ObjectDefinition → Building Settings
  | [] => pure settings
  | definition :: rest => do
    match ← typePolicy definition with
    | some own => configureAll (settings.configure definition.name own) rest
    | none => configureAll settings rest

def readColumnTypes : Entries String → Building (Entries ScalarType)
  | [] => pure []
  | (name, text) :: rest => do
    match ScalarType.ofName? text with
    | some type => pure ((name, type) :: (← readColumnTypes rest))
    | none => refuse (.unknownColumnType text)

def buildShape (outline : ShapeOutline) : Building Shape := do
  buildTypes outline
  let settings ← configureAll outline.settings.toSettings outline.types
  let root ← parse outline.root
  let declaredTypes ← readColumnTypes outline.columns
  let draft ← get
  pure ⟨root, settings, declaredTypes, draft.built, draft.bindings⟩

/-- The shape of an outline, with identities from `next` on, and the first one that is left. -/
def ofOutline (next : Nat) (outline : ShapeOutline) : Except Failure (Shape × Nat) :=
  match (buildShape outline).run { next } with
  | .ok (shape, draft) => .ok (shape, draft.next)
  | .error failure => .error failure

end Shape

end Unflatten
