import Unflatten.Failure
import Unflatten.Shape.Outline

/-!
# Members of object types

Definitions name types by text. These are the types that the texts mean, and properties, parameters
and constructors as their definitions say once their types are known.
-/

set_option autoImplicit false

namespace Unflatten

def readTarget (lookUp : String → Option Target) (text : String) : Except Failure Target :=
  match TypeExpression.read lookUp text with
  | .ok target => .ok target
  | .error fault => .error (.shape (.typeExpression text fault))

def readObjectType (lookUp : String → Option Target) (bindings : Bindings) (place : TypePlace)
    (name : String) : Except Failure ObjectType :=
  match lookUp name with
  | some (.object type) => .ok type
  | some (.reference ref) =>
    match bindings.find? ref with
    | some type => .ok type
    | none => .error (.shape (.notBuilt place name))
  | some other => .error (.shape (.notObject place name other.typeName))
  | none => .error (.shape (.unknownObject place name))

def PropertyDefinition.declare (definition : PropertyDefinition) (target : Target) : Property where
  name := definition.name
  target := target
  isPublic := !definition.isPrivate
  isReadable := !definition.isWriteOnly
  isWritable := !definition.isReadOnly
  isSink := definition.isSink

def ParameterDefinition.declare (definition : ParameterDefinition) (target : Target) :
    Parameter where
  name := definition.name
  target := target
  isSink := definition.isSink

def ConstructorDefinition.declare (definition : ConstructorDefinition) (ident : Nat)
    (parameters : List Parameter) : Constructor where
  ident := ident
  owner := ""
  isPublic := !definition.isPrivate
  isStatic := definition.isStatic
  parameters := parameters

end Unflatten
