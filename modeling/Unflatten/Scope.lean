import Unflatten.Header

/-!
# Scopes

A scope is the part of a header that belongs to one level of nesting. At the root every column is
visible under its own name. In the scope of a member `home` the columns `home` and `home_…` are
visible, the former without a name and the latter under what follows the separator. A narrowed
scope holds chosen columns only.
-/

set_option autoImplicit false

namespace Unflatten

/-- `lead` is what the folded names start with, `exact` the folded name of the member itself. -/
structure Scope where
  lead : String := ""
  exact : Option String := none
  only : Option (List Nat) := none
  deriving DecidableEq, Repr

namespace Scope

def root : Scope := {}

def among (indices : List Nat) : Scope :=
  { only := some indices }

def member (scope : Scope) (name separator : String) : Scope :=
  let exact := scope.lead ++ foldName name
  { scope with lead := exact ++ foldName separator, exact := some exact }

def isRoot (scope : Scope) : Bool :=
  scope.exact.isNone && scope.lead.isEmpty

def admits (scope : Scope) (index : Nat) : Bool :=
  match scope.only with
  | none => true
  | some indices => indices.contains index

/-- A member's scope holds the column of exactly its name and longer names with its lead. -/
def contains (scope : Scope) (column : HeaderColumn) : Bool :=
  scope.admits column.index &&
    (scope.exact == some column.folded ||
      (Text.startsWith column.folded scope.lead &&
        (scope.exact.isNone || column.folded != scope.lead)))

/-- The folded name relative to the scope. -/
def nameWithin (scope : Scope) (column : HeaderColumn) : String :=
  if scope.exact == some column.folded then ""
  else
    match Text.dropBytes? (Text.byteLength scope.lead.toList) column.folded.toList with
    | some rest => String.ofList rest
    | none => ""

/-- The name relative to the scope, as it is spelt. The member's own column keeps its whole name. -/
def spellingWithin (scope : Scope) (column : HeaderColumn) : String :=
  if scope.exact == some column.folded then column.name
  else
    column.nameSlice (Text.byteLength scope.lead.toList)
      (Text.byteLength column.folded.toList)

end Scope

end Unflatten
