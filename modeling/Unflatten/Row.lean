import Unflatten.Value.Basic

/-!
# Rows

A row has columns, each with a name, a type and the name that its provider gives the type, and
cells in the order of the columns. A cell that is missing reads as null.
-/

set_option autoImplicit false

namespace Unflatten

structure Column where
  name : String
  type : ScalarType
  provider : String
  deriving DecidableEq

def Column.declare (name : String) (type : ScalarType) : Column :=
  ⟨name, type, type.name⟩

structure Row where
  columns : List Column
  cells : List Value

namespace Row

def value (row : Row) (index : Nat) : Value :=
  row.cells[index]?.getD .null

def indexOf? (row : Row) (name : String) : Option Nat :=
  row.columns.findIdx? fun column => Text.equalIgnoringCase column.name name

def valueNamed? (row : Row) (name : String) : Option Value :=
  (row.indexOf? name).map row.value

def columnName (row : Row) (index : Nat) : String :=
  (row.columns[index]?.map Column.name).getD ""

/-- Columns out of range can hold anything. -/
def columnType (row : Row) (index : Nat) : ScalarType :=
  (row.columns[index]?.map Column.type).getD .object

def columnProvider (row : Row) (index : Nat) : String :=
  (row.columns[index]?.map Column.provider).getD ""

end Row

end Unflatten
