import Unflatten.Conversion
import Unflatten.Header

/-!
# Settings

How rows are mapped: the separator of nested names, the name that marks a column without a name,
conversion rules of the caller's own, and settings for single types. A type may prefer one of its
constructors, may be made by a factory, may stand for a default type, and may be replaced by one of
its subtypes where a predicate accepts the row.
-/

set_option autoImplicit false

namespace Unflatten

/-- Makes instances of a type from rows. Making none is a failure of the row. -/
structure Factory where
  ident : Nat
  produces : ObjectType
  make : Row → Option Object

inductive SubtypeChoice where
  | type (type : ObjectType)
  | factory (factory : Factory)

namespace SubtypeChoice

def objectType : SubtypeChoice → ObjectType
  | type concrete => concrete
  | factory maker => maker.produces

def factory? : SubtypeChoice → Option Factory
  | type _ => none
  | factory maker => some maker

def ident : SubtypeChoice → Nat
  | type concrete => concrete.ident
  | factory maker => maker.ident

end SubtypeChoice

/-- `ident` is the identity of the predicate. -/
structure SubtypeCase where
  ident : Nat
  accepts : Row → Bool
  target : SubtypeChoice

structure TypePolicy where
  preferred : Option Constructor := none
  default : Option ObjectType := none
  factory : Option Factory := none
  subtypes : List SubtypeCase := []

namespace TypePolicy

/-- What `later` says comes on top; its subtypes come after the others. -/
def extend (earlier later : TypePolicy) : TypePolicy where
  preferred := later.preferred.or earlier.preferred
  default := later.default.or earlier.default
  factory := later.factory.or earlier.factory
  subtypes := earlier.subtypes ++ later.subtypes

end TypePolicy

structure Settings where
  separator : String := "_"
  sentinel : String := ""
  rules : List CustomRule := []
  types : Entries TypePolicy := []

namespace Settings

def ofType? (settings : Settings) (name : String) : Option TypePolicy :=
  settings.types.get? name

/-- Replaces earlier settings of the same name. -/
def configure (settings : Settings) (name : String) (type : TypePolicy) : Settings :=
  { settings with types := settings.types.insert name type }

/-- Adds to the settings of exactly this name. -/
def extend (settings : Settings) (name : String) (type : TypePolicy) : Settings :=
  settings.configure name (((settings.ofType? name).getD {}).extend type)

end Settings

/-! ## Identity -/

def TypePolicy.idents (type : TypePolicy) : List (Option Nat) :=
  [type.preferred.map ConstructorOf.ident, type.default.map ObjectTypeOf.ident,
    type.factory.map Factory.ident]
    ++ type.subtypes.flatMap fun rule => [some rule.ident, some rule.target.ident]

structure SettingsIdentity where
  separator : String
  sentinel : String
  rules : List Nat
  types : List (String × List (Option Nat))
  deriving DecidableEq

def Settings.identity (settings : Settings) : SettingsIdentity where
  separator := settings.separator
  sentinel := settings.sentinel
  rules := settings.rules.map CustomRule.ident
  types := settings.types.map fun (name, type) => (name, type.idents)

end Unflatten
