import Unflatten.Header
import Unflatten.MemberPath

/-!
# Tables

Plain text tables with columns at least three characters wide, two blanks apart. Control characters
are shown as blanks, and lines end without blanks.
-/

set_option autoImplicit false

namespace Unflatten

structure Table where
  headers : List String
  rows : List (List String)

namespace Table

def width (table : Table) (index : Nat) (header : String) : Nat :=
  let cells := table.rows.filterMap fun row => row[index]?.map String.length
  max 3 (cells.foldl max header.length)

def widths (table : Table) : List Nat :=
  table.headers.zipIdx.map fun (header, index) => table.width index header

def shown (text : String) : String :=
  String.ofList (text.toList.map fun c => if Text.isControl c then ' ' else c)

/-- Cells without a column are left out, and columns without a cell are empty. -/
def paddedCells : List Nat → List String → List String
  | [], _ => []
  | width :: widths, [] => Text.padEnd width "" :: paddedCells widths []
  | width :: widths, cell :: cells => Text.padEnd width (shown cell) :: paddedCells widths cells

def line (widths : List Nat) (cells : List String) : String :=
  String.ofList (Text.trimEnd (Text.join "  " (paddedCells widths cells)).toList) ++ "\n"

def text (table : Table) : String :=
  let widths := table.widths
  let rule := widths.map fun width => Text.repeated width '-'
  String.join ((table.headers :: rule :: table.rows).map (line widths))

def ofHeader (header : Header) (separator : String) : Table where
  headers := ["#", "name", "canonical", "type", "provider type", "path"]
  rows := header.map fun column =>
    [Digits.text column.index, column.name, column.folded, column.type.name, column.provider,
      Text.join " > " (memberPath column.name separator)]

end Table

end Unflatten
