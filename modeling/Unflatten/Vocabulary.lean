import Unflatten.Custom
import Unflatten.Shape.Basic

/-!
# Vocabularies

A vocabulary says what names mean in type expressions: the types declared in it, in front of those
of a shape. A declaration may use the names that are declared before it. A name that is declared
as a reference means the object type of that name as soon as there is one, and the reference is
bound to it. With the types go the settings that rows are mapped with.
-/

set_option autoImplicit false

namespace Unflatten

/-- `next` is the first identity that is not in use. -/
structure Vocabulary where
  next : Nat := 0
  shape : Option Shape := none
  types : Entries Target := []
  bindings : Bindings := []
  settings : Settings := {}

/-- How a sequence type takes up its elements. -/
inductive Adding where
  | atEnd
  | atFront
  | sorted
  deriving DecidableEq, Repr

def Adding.apply : Adding → Value → Value → Value
  | atEnd => Value.push
  | atFront => Value.pushFront
  | sorted => Value.pushSorted

/-- How a dictionary type treats its keys. -/
inductive Keying where
  | exact
  | upper
  deriving DecidableEq, Repr

def Keying.apply : Keying → Value → String → Value → Value
  | exact => Value.insertKey
  | upper => Value.insertUpperKey

/-- A constructor with an owner other than its type, or with a body that leaves a tag. -/
structure ConstructorDeclaration where
  definition : ConstructorDefinition
  owner : String := ""
  tag : Option String := none

/-- In a recursive type its own name means the type itself. -/
structure ObjectDeclaration where
  name : String
  isAbstract : Bool := false
  isRecursive : Bool := false
  properties : List PropertyDefinition := []
  constructors : List ConstructorDeclaration := []

/-! ## Settings by names -/

inductive SubtypeChoiceDefinition where
  | type (name : String)
  | factory (definition : FactoryDefinition)

structure SubtypeCaseDefinition where
  condition : String
  target : SubtypeChoiceDefinition

/-- The preferred constructor is given by its type and its place there. -/
structure TypePolicyDefinition where
  preferred : Option (String × Nat) := none
  default : Option String := none
  factory : Option FactoryDefinition := none
  subtypes : List SubtypeCaseDefinition := []

namespace Vocabulary

def ofShape (shape : Shape) (next : Nat) : Vocabulary :=
  { next, shape := some shape, bindings := shape.bindings, settings := shape.settings }

def lookUp (vocabulary : Vocabulary) (name : String) : Option Target :=
  match vocabulary.types.get? (Shape.typeKey name) with
  | some target => some target
  | none => vocabulary.shape.bind fun shape => shape.lookUp name

def read (vocabulary : Vocabulary) (text : String) : Except Failure Target :=
  readTarget vocabulary.lookUp text

def objectType (vocabulary : Vocabulary) (place : TypePlace) (name : String) :
    Except Failure ObjectType :=
  readObjectType vocabulary.lookUp vocabulary.bindings place name

abbrev Defining (α : Type) := StateT Vocabulary (Except Failure) α

/-- An identity of its own for each use. -/
def fresh : Defining Nat := do
  let vocabulary ← get
  set { vocabulary with next := vocabulary.next + 1 }
  pure vocabulary.next

def define (name : String) (target : Target) : Defining Unit :=
  modify fun vocabulary =>
    { vocabulary with types := vocabulary.types.insert (Shape.typeKey name) target }

def objectNamed (place : TypePlace) (name : String) : Defining ObjectType := do
  (← get).objectType place name

/-! ## Declarations -/

def declareEnum (name : String) (variants : List (String × FixedInt .int64)) : Defining Unit := do
  define name (.enum ⟨← fresh, name, variants⟩)

def declareReference (name : String) : Defining Unit := do
  define name (.reference ⟨← fresh, name⟩)

/-- New sequences start from the seed, if the type can make any. -/
def declareSequence (name element : String) (seed : Option Value) (adding : Adding) :
    Defining Unit := do
  let element ← (← get).read element
  define name (.sequence ⟨← fresh, name, element, seed, adding.apply⟩)

def declareDictionary (name value : String) (seed : Option Value) (keying : Keying) :
    Defining Unit := do
  let value ← (← get).read value
  define name (.dictionary ⟨← fresh, name, value, seed, keying.apply⟩)

/-- Inside a recursive type its name means a reference to it. -/
def within (vocabulary : Vocabulary) (declaration : ObjectDeclaration) (self : Reference)
    (name : String) : Option Target :=
  if declaration.isRecursive && Text.equalIgnoringCase name declaration.name then
    some (.reference self)
  else vocabulary.lookUp name

def buildProperty (lookUp : String → Option Target) (definition : PropertyDefinition) :
    Defining Property := do
  pure (definition.declare (← readTarget lookUp definition.type))

def buildParameter (lookUp : String → Option Target) (definition : ParameterDefinition) :
    Defining Parameter := do
  pure (definition.declare (← readTarget lookUp definition.type))

def buildConstructor (lookUp : String → Option Target) (declaration : ConstructorDeclaration) :
    Defining Constructor := do
  let parameters ← declaration.definition.parameters.mapM (buildParameter lookUp)
  let constructor := declaration.definition.declare (← fresh) parameters
  pure { constructor with owner := declaration.owner, body := declaration.tag.map taggingBody }

def bindName (name : String) (type : ObjectType) : Defining Unit := do
  let vocabulary ← get
  match vocabulary.types.get? (Shape.typeKey name) with
  | some (.reference ref) =>
    match ref.bind type vocabulary.bindings with
    | .ok bindings => set { vocabulary with bindings }
    | .error fault => throw (.shape (.binding fault))
  | _ => pure ()

def bindSelf (self : Reference) (type : ObjectType) : Defining Unit :=
  modify fun vocabulary =>
    { vocabulary with bindings := (self.ident, type) :: vocabulary.bindings }

def declareObject (declaration : ObjectDeclaration) : Defining Unit := do
  let self : Reference := ⟨← fresh, declaration.name⟩
  let lookUp := (← get).within declaration self
  let properties ← declaration.properties.mapM (buildProperty lookUp)
  let constructors ← declaration.constructors.mapM (buildConstructor lookUp)
  let type :=
    ObjectTypeOf.declare (← fresh) declaration.name declaration.isAbstract properties (← fresh)
      constructors
  if declaration.isRecursive then bindSelf self type
  bindName declaration.name type
  define declaration.name (.object type)

/-! ## Settings -/

def addRule (definition : RuleDefinition) : Defining Unit := do
  let rule := definition.toRule (← fresh)
  modify fun vocabulary =>
    { vocabulary with
      settings := { vocabulary.settings with rules := vocabulary.settings.rules ++ [rule] } }

def buildFactory (definition : FactoryDefinition) : Defining Factory := do
  let type ← objectNamed .configured definition.produces
  pure (definition.toFactory (← fresh) type)

def buildSubtype (type : String) (definition : SubtypeCaseDefinition) : Defining SubtypeCase := do
  let condition ← Condition.ofText definition.condition
  match definition.target with
  | .type name =>
    let concrete ← objectNamed (.subtype type) name
    pure ⟨← fresh, condition.accepts, .type concrete⟩
  | .factory maker =>
    let factory ← buildFactory maker
    pure ⟨← fresh, condition.accepts, .factory factory⟩

def constructorAt (name : String) (position : Nat) : Defining Constructor := do
  let type ← objectNamed .configured name
  match type.constructors[position]? with
  | some constructor => pure constructor
  | none => throw (.shape (.noConstructor name position))

def buildSettings (type : String) (definition : TypePolicyDefinition) :
    Defining TypePolicy := do
  let preferred ← definition.preferred.mapM fun place => constructorAt place.1 place.2
  let default ← definition.default.mapM (objectNamed (.default type))
  let factory ← definition.factory.mapM buildFactory
  let subtypes ← definition.subtypes.mapM (buildSubtype type)
  pure { preferred, default, factory, subtypes }

/-- Adds to the settings of exactly this name. -/
def configure (name : String) (definition : TypePolicyDefinition) : Defining Unit := do
  let own ← buildSettings name definition
  modify fun vocabulary =>
    { vocabulary with settings := vocabulary.settings.extend name own }

end Vocabulary

end Unflatten
