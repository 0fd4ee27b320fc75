import Unflatten.CellText
import Unflatten.Target.Expression

/-!
# Failures

Why a target has no plan, why a row was not mapped, and why a description of types was refused. A
failure keeps its cause; `message` words it.
-/

set_option autoImplicit false

namespace Unflatten

inductive ConstructorObjection where
  | notPublic
  | isStatic
  | ownedBy (owner : String)
  deriving DecidableEq, Repr

def ConstructorObjection.message : ConstructorObjection → String
  | notPublic => "constructor is not public"
  | isStatic => "constructor is static"
  | ownedBy owner => "constructor is declared on '" ++ owner ++ "'"

inductive SourceFault where
  | missingResultSet (expected seen : Nat)
  | record (row : Nat)
  | cell (row : Nat) (column : String) (error : ReadError)
  deriving DecidableEq, Repr

/-- A record that the reader of delimited text refuses gets the reader's own words behind the
message, which are not part of it here. -/
def SourceFault.message : SourceFault → String
  | missingResultSet expected seen =>
    "expected " ++ Digits.text expected ++ " result set(s) but the cursor ended after "
      ++ Digits.text seen
  | record row => "Reading row " ++ Digits.text row
  | cell row column error =>
    "row " ++ Digits.text row ++ ", column '" ++ column ++ "': " ++ error.fullMessage

inductive RowFault where
  | width (row found expected : Nat)
  | untypedColumn (name : String)
  deriving DecidableEq, Repr

def RowFault.message : RowFault → String
  | width row found expected =>
    "row " ++ Digits.text row ++ " has " ++ Digits.text found
      ++ " value(s) but the result set declares " ++ Digits.text expected ++ " column(s)"
  | untypedColumn name => "Typed column '" ++ name ++ "' not found in headers"

/-- The place in a description where the name of an object type is expected. -/
inductive TypePlace where
  | base (type : String)
  | configured
  | default (type : String)
  | subtype (type : String)
  deriving DecidableEq, Repr

def TypePlace.message : TypePlace → String
  | base type => "Type '" ++ type ++ "' extends"
  | configured => "Configuring settings"
  | default type => "Default concrete type of '" ++ type ++ "'"
  | subtype type => "Subtype rule of '" ++ type ++ "'"

inductive ShapeFault where
  | unknownColumnType (text : String)
  | typeExpression (text : String) (fault : TypeExpression.Fault)
  | binding (fault : BindFault)
  | tooDeep (target : String)
  | declaredTwice (name : String)
  | cycle (path : List String)
  | notBuilt (place : TypePlace) (name : String)
  | notObject (place : TypePlace) (name found : String)
  | unknownObject (place : TypePlace) (name : String)
  | noConstructor (type : String) (position : Nat)
  deriving DecidableEq, Repr

/-- Targets nest no deeper than this below the root. -/
def deepestLevel : Nat := 64

def ShapeFault.message : ShapeFault → String
  | unknownColumnType text =>
    "Unknown column type '" ++ text ++ "'. Supported types: "
      ++ Text.join ", " (ScalarType.all.map ScalarType.name)
  | typeExpression text fault => fault.message text
  | binding fault => fault.message
  | tooDeep target =>
    target ++ " is nested more than " ++ Digits.text deepestLevel ++ " levels deep"
  | declaredTwice name => "Type '" ++ name ++ "' is declared more than once"
  | cycle path => "Type definitions form a cycle: " ++ Text.join " -> " path
  | notBuilt place name => place.message ++ ": type '" ++ name ++ "' is not built yet"
  | notObject place name found =>
    place.message ++ ": '" ++ name ++ "' is a " ++ found ++ " and not an object type"
  | unknownObject place name => place.message ++ ": unknown type '" ++ name ++ "'"
  | noConstructor type position =>
    "Type '" ++ type ++ "' has no constructor at position " ++ Digits.text position

inductive Failure where
  | noPlan (target : String)
  | noUsableConstructor (type : String)
  | refusedConstructor (type : String) (objection : ConstructorObjection)
  | barrenFactory (type : String)
  | noSubtype (type : String)
  | unconvertible (column : String) (source : ScalarType) (target value : String)
  | reading (fault : SourceFault)
  | row (fault : RowFault)
  | misfit
  | blankCondition (text : String)
  | shape (fault : ShapeFault)
  deriving DecidableEq, Repr

def Failure.message : Failure → String
  | noPlan target =>
    "cannot map to type " ++ target ++ ": no compiler supports this shape"
  | noUsableConstructor type => "no eligible constructor found for type '" ++ type ++ "'"
  | refusedConstructor type objection =>
    "invalid constructor for type '" ++ type ++ "': " ++ objection.message
  | barrenFactory type => "factory for type '" ++ type ++ "' returned null"
  | noSubtype type => "no subtype rule matched for abstract type '" ++ type ++ "'"
  | unconvertible column source target value =>
    "failed to convert column '" ++ column ++ "' from " ++ source.name ++ " to " ++ target
      ++ " (value='" ++ value ++ "')"
  | reading fault => "cursor error: " ++ fault.message
  | row fault => "row shape mismatch: " ++ fault.message
  | misfit => "failed to deserialize mapped value"
  | blankCondition text =>
    "failed to evaluate expression '" ++ text ++ "': expression is empty"
  | shape fault => "invalid shape: " ++ fault.message

end Unflatten
