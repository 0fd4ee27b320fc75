import Unflatten.Claims
import Unflatten.Failure
import Unflatten.Settings

/-!
# Choice of a constructor

A parameter is bound to a column of its name, to columns of a member of its name, or, if it is a
sink, to the columns without a name. A constructor with an unbound parameter is out of the
question. Of the public constructors that create instances the one with the most parameters wins,
and of several the first. A preferred constructor is taken as it is once it has been checked.
-/

set_option autoImplicit false

namespace Unflatten

inductive ParameterBinding where
  | column
  | member
  | sink
  deriving DecidableEq, Repr

/-- The columns that are left in a scope. -/
structure View where
  header : Header
  claims : Claims
  scope : Scope

namespace View

def bind? (view : View) (settings : Settings) (parameter : Parameter) : Option ParameterBinding :=
  if view.header.hasColumn view.claims view.scope (foldName parameter.name) then some .column
  else if !parameter.target.isLeaf &&
      view.header.hasMember view.claims view.scope parameter.name settings.separator then
    some .member
  else if parameter.isSink &&
      !(view.header.nameless view.claims view.scope settings.sentinel).isEmpty then
    some .sink
  else none

def score? (view : View) (settings : Settings) (constructor : Constructor) : Option Nat :=
  if constructor.parameters.all fun parameter => (view.bind? settings parameter).isSome then
    some constructor.parameters.length
  else none

/-- The first of the constructors with the highest score. -/
def best? (view : View) (settings : Settings) : List Constructor → Option (Nat × Constructor)
  | [] => none
  | constructor :: rest =>
    let score :=
      if constructor.isPublic && !constructor.isStatic then view.score? settings constructor
      else none
    match score, view.best? settings rest with
    | none, later => later
    | some points, none => some (points, constructor)
    | some points, some (more, other) =>
      if points < more then some (more, other) else some (points, constructor)

end View

def ConstructorOf.objection? (constructor : Constructor) (type : ObjectType) :
    Option ConstructorObjection :=
  if !constructor.isPublic then some .notPublic
  else if constructor.isStatic then some .isStatic
  else if constructor.owner ≠ type.name then some (.ownedBy constructor.owner)
  else none

def ObjectTypeOf.chooseConstructor (type : ObjectType) (own : Option TypePolicy) (view : View)
    (settings : Settings) : Except Failure Constructor :=
  match own.bind TypePolicy.preferred with
  | some preferred =>
    match preferred.objection? type with
    | some objection => .error (.refusedConstructor type.name objection)
    | none => .ok preferred
  | none =>
    if type.isAbstract then .error (.noUsableConstructor type.name)
    else
      match view.best? settings type.constructors with
      | some (_, constructor) => .ok constructor
      | none => .error (.noUsableConstructor type.name)

end Unflatten
