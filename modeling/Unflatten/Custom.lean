import Unflatten.Settings

/-!
# Custom parts

Conversion rules, constructor bodies and factories that can be put together from data: which cells
a rule takes and what it makes of them, what a constructor leaves in its instance, and which fields
and columns a factory copies.
-/

set_option autoImplicit false

namespace Unflatten

/-! ## Rules -/

inductive RuleAction where
  | upper
  | constant (value : Value)
  | keep
  | refuse

/-- Upper case applies to the displayed text; a refusal names the rule. -/
def RuleAction.apply (action : RuleAction) (rule : String) (value : Value) :
    Except ConversionFault Value :=
  match action with
  | upper => .ok (.string (Text.upper value.display))
  | constant result => .ok result
  | keep => .ok value
  | refuse => .error (.refused rule value)

/-- `source` and `leaf` narrow the rule to one type of columns and to leaves of one description. -/
structure RuleDefinition where
  name : String
  source : Option ScalarType := none
  leaf : Option String := none
  takesNull : Bool := false
  action : RuleAction

namespace RuleDefinition

def applies (definition : RuleDefinition) (leaf : Leaf) (source : ScalarType) : Bool :=
  definition.source.all (· == source) && definition.leaf.all (· == leaf.describe)

def toRule (definition : RuleDefinition) (ident : Nat) : CustomRule where
  name := definition.name
  applies := definition.applies
  convert _ _ value := definition.action.apply definition.name value
  takesNull := definition.takesNull
  ident := ident

end RuleDefinition

/-! ## Constructor bodies -/

/-- The field that a tagging constructor leaves its tag in. -/
def tagField : String := "Ctor"

/-- Stores the arguments in the properties in their order, and then the tag. -/
def taggingBody (tag : String) : InstanceBuilder := fun type arguments =>
  let names := type.properties.map PropertyOf.name
  let filled :=
    (names.zip arguments).foldl (fun object entry => object.set entry.1 entry.2) type.blank
  filled.set tagField (.string tag)

/-! ## Factories -/

/-- The type that a factory makes, by its name, with fixed fields and with fields that take the
cell of the column that is named. A barren factory makes nothing. -/
structure FactoryDefinition where
  produces : String
  typeName : Option String := none
  fields : Entries Value := []
  columns : Entries String := []
  isBarren : Bool := false

namespace FactoryDefinition

def instanceOf (definition : FactoryDefinition) (type : ObjectType) (row : Row) : Object :=
  let fixed := definition.fields.foldl (fun object field => object.set field.1 field.2)
    (Object.empty (definition.typeName.getD type.name))
  definition.columns.foldl
    (fun object field => object.set field.1 ((row.valueNamed? field.2).getD .null)) fixed

def toFactory (definition : FactoryDefinition) (ident : Nat) (type : ObjectType) : Factory where
  ident := ident
  produces := type
  make row := if definition.isBarren then none else some (definition.instanceOf type row)

end FactoryDefinition

end Unflatten
