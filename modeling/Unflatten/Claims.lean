import Unflatten.Scope

/-!
# Claims on columns

Each column of a header is claimed at most once. The claims are a list of marks, one for each
column; everything that looks for columns sees those that are not claimed yet.
-/

set_option autoImplicit false

namespace Unflatten

abbrev Claims := List Bool

namespace Claims

def none (header : Header) : Claims :=
  List.replicate header.length false

def claim (claims : Claims) (index : Nat) : Claims :=
  claims.set index true

def isClaimed (claims : Claims) (index : Nat) : Bool :=
  claims[index]?.getD false

def count (claims : Claims) : Nat :=
  List.count true claims

def merge (left right : Claims) : Claims :=
  List.zipWith (· || ·) left right

end Claims

/-- Columns of one local name, in the order of the header. -/
structure Namesakes where
  localName : String
  display : String
  columns : List HeaderColumn
  deriving DecidableEq

namespace Namesakes

def indices (group : Namesakes) : List Nat :=
  group.columns.map HeaderColumn.index

def isAmbiguous (group : Namesakes) : Bool :=
  1 < group.columns.length

/-- Puts a column into the group of its name, which is a new one at the end if there is none. -/
def insert (scope : Scope) (column : HeaderColumn) : List Namesakes → List Namesakes
  | [] => [⟨scope.nameWithin column, scope.spellingWithin column, [column]⟩]
  | group :: rest =>
    if group.localName = scope.nameWithin column then
      { group with columns := group.columns ++ [column] } :: rest
    else group :: insert scope column rest

end Namesakes

namespace Header

def available (header : Header) (claims : Claims) (scope : Scope) : List HeaderColumn :=
  header.filter fun column => !claims.isClaimed column.index && scope.contains column

def places (header : Header) (claims : Claims) (scope : Scope) : List Nat :=
  (header.available claims scope).map HeaderColumn.index

/-- The first column with the local name, which is in lower case already. -/
def find? (header : Header) (claims : Claims) (scope : Scope) (localName : String) :
    Option HeaderColumn :=
  (header.available claims scope).find? fun column => scope.nameWithin column == localName

def hasColumn (header : Header) (claims : Claims) (scope : Scope) (localName : String) : Bool :=
  (header.find? claims scope localName).isSome

def hasMember (header : Header) (claims : Claims) (scope : Scope) (name separator : String) :
    Bool :=
  !(header.available claims (scope.member name separator)).isEmpty

/-- Groups of equal local names, in the order of their first columns. -/
def namesakes (header : Header) (claims : Claims) (scope : Scope) : List Namesakes :=
  (header.available claims scope).foldl
    (fun groups column => Namesakes.insert scope column groups) []

/-- The first segment of a local name that has a separator behind it, with its spelling in the
header. -/
def segment? (scope : Scope) (separator : String) (column : HeaderColumn) :
    Option (String × String) :=
  match Text.before? separator.toList (scope.nameWithin column).toList with
  | none => Option.none
  | some [] => Option.none
  | some segment =>
    let start := Text.byteLength scope.lead.toList
    some
      (String.ofList segment,
        column.nameSlice start (start + Text.byteLength segment))

def addSegment (segments : List (String × String)) (segment : String × String) :
    List (String × String) :=
  if segments.any fun earlier => earlier.1 == segment.1 then segments else segments ++ [segment]

/-- The different first segments with their spelling in the first column that has them. -/
def memberNames (header : Header) (claims : Claims) (scope : Scope) (separator : String) :
    List (String × String) :=
  let folded := foldName separator
  if folded.isEmpty then []
  else ((header.available claims scope).filterMap (segment? scope folded)).foldl addSegment []

/-- Columns whose whole name is the mark of a column without a name. -/
def nameless (header : Header) (claims : Claims) (scope : Scope) (sentinel : String) : List Nat :=
  ((header.available claims scope).filter fun column =>
    column.folded == foldName sentinel).map HeaderColumn.index

end Header

end Unflatten
