import Unflatten.Row

/-!
# Headers

The columns of a result set with their folded names, which are what members are looked up by. An
offset into the folded name has a counterpart in the written one: folding may change the length
of a character, so characters are counted one at a time, and an offset inside the fold of one
character belongs to the end of it.
-/

set_option autoImplicit false

namespace Unflatten

/-- Names are compared in lower case. -/
def foldName (name : String) : String :=
  Text.lower name

structure HeaderColumn where
  index : Nat
  name : String
  folded : String
  type : ScalarType
  provider : String
  deriving DecidableEq

abbrev Header := List HeaderColumn

namespace Header

def ofColumns (columns : List Column) : Header :=
  columns.zipIdx.map fun (column, index) =>
    ⟨index, column.name, foldName column.name, column.type, column.provider⟩

/-- What a cache key keeps of a column: the folded name, the name itself and the type. -/
def signature (header : Header) : List (String × String × ScalarType) :=
  header.map fun column => (column.folded, column.name, column.type)

end Header

/-- How many leading characters it takes until their folds have `bytes` bytes. -/
def countFolded : Nat → List Char → Nat
  | 0, _ => 0
  | _, [] => 0
  | bytes + 1, c :: rest =>
    countFolded (bytes + 1 - Text.byteLength (Text.lowerChar c)) rest + 1

namespace HeaderColumn

def nameOffset (column : HeaderColumn) (bytes : Nat) : Nat :=
  let chars := column.name.toList
  Text.byteLength (chars.take (countFolded bytes chars))

/-- The spelling of the bytes of the folded name from `start` to `finish`. -/
def nameSlice (column : HeaderColumn) (start finish : Nat) : String :=
  let chars := column.name.toList
  String.ofList ((chars.take (countFolded finish chars)).drop (countFolded start chars))

end HeaderColumn

end Unflatten
