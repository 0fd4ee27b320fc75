import Unflatten.Failure
import Unflatten.Row

/-!
# Sources of rows

A source is read forward only, row after row and result set after result set. It has a current row
at every time; before the first row and behind the last its cells are missing. `remaining` bounds
how often the source can still advance.
-/

set_option autoImplicit false

namespace Unflatten

class RowSource (σ : Type) where
  row : σ → Row
  advance : σ → Except Failure Bool × σ
  nextSet : σ → Bool × σ
  remaining : σ → Nat

/-! ## Result sets in memory -/

structure ResultSet where
  columns : List Column
  rows : List (List Value)

namespace ResultSet

/-- Every row has a cell for each column. -/
def push (set : ResultSet) (cells : List Value) : Except Failure ResultSet :=
  if cells.length = set.columns.length then .ok { set with rows := set.rows ++ [cells] }
  else .error (.row (.width (set.rows.length + 1) cells.length set.columns.length))

def pushAll (set : ResultSet) : List (List Value) → Except Failure ResultSet
  | [] => .ok set
  | cells :: rest =>
    match set.push cells with
    | .ok longer => longer.pushAll rest
    | .error failure => .error failure

end ResultSet

/-- `position` counts the rows that have been advanced to; the current row is the one before it. -/
structure MemorySource where
  sets : List ResultSet
  position : Nat := 0

namespace MemorySource

def columns (source : MemorySource) : List Column :=
  (source.sets.head?.map ResultSet.columns).getD []

def rows (source : MemorySource) : List (List Value) :=
  (source.sets.head?.map ResultSet.rows).getD []

def cells (source : MemorySource) : List Value :=
  match source.position with
  | 0 => []
  | before + 1 => source.rows[before]?.getD []

/-- Behind the last row the source stays where it is. -/
def advance (source : MemorySource) : Bool × MemorySource :=
  if source.position < source.rows.length then
    (true, { source with position := source.position + 1 })
  else (false, { source with position := source.rows.length + 1 })

def nextSet (source : MemorySource) : Bool × MemorySource :=
  let later := source.sets.drop 1
  (!later.isEmpty, ⟨later, 0⟩)

instance : RowSource MemorySource where
  row source := ⟨source.columns, source.cells⟩
  advance source := (.ok source.advance.1, source.advance.2)
  nextSet := nextSet
  remaining source := source.rows.length - source.position

end MemorySource

end Unflatten
