import Unflatten.Failure

/-!
# Declared types of columns

Types are declared as `name:type`, several of them between commas.
-/

set_option autoImplicit false

namespace Unflatten.Delimited

abbrev DeclaredTypes := List (String × ScalarType)

inductive TypesFault where
  | notPaired (entry : String)
  | unknownType (name type : String)
  deriving DecidableEq, Repr

namespace TypesFault

def message : TypesFault → String
  | notPaired entry => "Column type '" ++ entry ++ "' must be written as name:type"
  | unknownType name _ => "Parsing column type for '" ++ name ++ "'"

def failure? : TypesFault → Option Failure
  | notPaired _ => none
  | unknownType _ type => some (.shape (.unknownColumnType type))

end TypesFault

def readEntry (entry : String) : Except TypesFault (String × ScalarType) :=
  match Text.splitLast? ':' entry with
  | none => .error (.notPaired entry)
  | some (name, type) =>
    match ScalarType.ofName? type with
    | some type => .ok (Text.trim name, type)
    | none => .error (.unknownType name type)

def entriesOf (texts : List String) : List String :=
  ((texts.flatMap (Text.splitOn (· = ','))).map Text.trim).filter fun entry => !entry.isEmpty

def readTypes (texts : List String) : Except TypesFault DeclaredTypes :=
  (entriesOf texts).mapM readEntry

end Unflatten.Delimited
