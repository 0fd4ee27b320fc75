import Unflatten.Delimited.DeclaredTypes
import Unflatten.Delimited.Records
import Unflatten.RowSource

/-!
# Delimited text as a source of rows

The first record names the columns, which hold text unless a type is declared for them. A record of
another width and a cell that its type does not admit are failures; the cells of the row before stay
current then.
-/

set_option autoImplicit false

namespace Unflatten

/-- `rowNumber` counts the records that had the right width. -/
structure DelimitedSource where
  columns : List Column
  records : List (List String)
  current : List Value := []
  rowNumber : Nat := 0

namespace DelimitedSource

def typeOf (types : Delimited.DeclaredTypes) (name : String) : ScalarType :=
  ((types.find? fun entry => Text.equalIgnoringCase entry.1 name).map Prod.snd).getD .string

/-- Every declared type needs its column. -/
def ofRecords (records : List (List String)) (types : Delimited.DeclaredTypes) :
    Except Failure DelimitedSource :=
  let names := records.head?.getD []
  let columns := names.map fun name => Column.declare name (typeOf types name)
  let isMissing := fun entry : String × ScalarType =>
    !columns.any fun column => Text.equalIgnoringCase column.name entry.1
  match types.find? isMissing with
  | some (name, _) => .error (.row (.untypedColumn name))
  | none => .ok { columns, records := records.drop 1 }

def ofText (delimiter : Char) (text : String) (types : Delimited.DeclaredTypes) :
    Except Failure DelimitedSource :=
  ofRecords (Delimited.records delimiter text) types

def readCells (row : Nat) : List Column → List String → Except Failure (List Value)
  | [], _ => .ok []
  | _ :: _, [] => .ok []
  | column :: columns, cell :: cells =>
    match readCell column.type cell with
    | .error error => .error (.reading (.cell row column.name error))
    | .ok value =>
      match readCells row columns cells with
      | .ok values => .ok (value.getD .null :: values)
      | .error failure => .error failure

def advance (source : DelimitedSource) : Except Failure Bool × DelimitedSource :=
  match source.records with
  | [] => (.ok false, { source with current := [] })
  | record :: records =>
    if record.length = source.columns.length then
      let row := source.rowNumber + 1
      match readCells row source.columns record with
      | .ok current => (.ok true, { source with records, current, rowNumber := row })
      | .error failure => (.error failure, { source with records, rowNumber := row })
    else (.error (.reading (.record (source.rowNumber + 1))), { source with records })

/-- There is one result set only. -/
def nextSet (source : DelimitedSource) : Bool × DelimitedSource :=
  (false, { source with current := [] })

instance : RowSource DelimitedSource where
  row source := ⟨source.columns, source.current⟩
  advance := advance
  nextSet := nextSet
  remaining source := source.records.length

end DelimitedSource

end Unflatten
