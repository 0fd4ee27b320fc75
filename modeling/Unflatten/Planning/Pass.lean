import Unflatten.ConstructorChoice
import Unflatten.Program.Basic

/-!
# Planning passes

A pass turns one target into a program. It keeps the claims on columns and the next free register;
both survive a failure, so that whoever catches it decides which claims to give back. Registers
are never given back. A site is a place in the tree of targets with its scope.
-/

set_option autoImplicit false

namespace Unflatten

structure Environment where
  header : Header
  settings : Settings
  bindings : Bindings

namespace Environment

def rules (env : Environment) : List ConversionRule :=
  ConversionRule.inOrder env.settings.rules

end Environment

structure Pass where
  claims : Claims
  nextRegister : Register

abbrev Planning (α : Type) := ExceptT Failure (StateM Pass) α

inductive Role where
  | root
  | member
  | element
  | slot
  deriving DecidableEq, Repr

/-- `existing` is the register of the value that is already there, if it may be updated. -/
structure Site where
  target : Target
  scope : Scope
  existing : Option Register
  role : Role

/-- Plans a site, or declines it with `none`. -/
abbrev Planner := Site → Planning (Option Program)

namespace Site

def atRoot (bindings : Bindings) (target : Target) : Site :=
  ⟨target.resolve bindings, .root, some existingRegister, .root⟩

def isRoot (site : Site) : Bool :=
  site.role == .root

variable (env : Environment)

/-- The columns of a member are those of its name and those with its name and a separator first. -/
def member (site : Site) (name : String) (target : Target) (existing : Option Register) : Site :=
  ⟨target.resolve env.bindings, site.scope.member name env.settings.separator, existing, .member⟩

def element (site : Site) (target : Target) : Site :=
  ⟨target.resolve env.bindings, site.scope, none, .element⟩

def slot (site : Site) (target : Target) : Site :=
  ⟨target.resolve env.bindings, site.scope, none, .slot⟩

end Site

namespace Planning

variable (env : Environment)

def fresh : Planning Register := do
  let pass ← get
  set { pass with nextRegister := pass.nextRegister + 1 }
  pure pass.nextRegister

def claims : Planning Claims := do
  pure (← get).claims

def setClaims (claims : Claims) : Planning Unit :=
  modify fun pass => { pass with claims }

def attempt {α : Type} (action : Planning α) : Planning (Except Failure α) :=
  fun pass =>
    let done := action pass
    (.ok done.1, done.2)

def orRelease (action : Planning (Option Program)) : Planning (Option Program) := do
  let before ← claims
  match ← action with
  | some program => pure (some program)
  | none =>
    setClaims before
    pure none

def view (scope : Scope) : Planning View := do
  pure ⟨env.header, ← claims, scope⟩

def available (scope : Scope) : Planning (List HeaderColumn) := do
  pure (env.header.available (← claims) scope)

def find? (scope : Scope) (localName : String) : Planning (Option HeaderColumn) := do
  pure (env.header.find? (← claims) scope localName)

def hasMember (scope : Scope) (name : String) : Planning Bool := do
  pure (env.header.hasMember (← claims) scope name env.settings.separator)

def read (column : HeaderColumn) (leaf : Leaf) : Planning Program := do
  setClaims ((← claims).claim column.index)
  let into ← fresh
  let conversion := Conversion.select env.rules leaf column.type
  pure (Program.single (.read ⟨column.index, column.name⟩ conversion into) into)

def readAll (leaf : Leaf) : List HeaderColumn → Planning (List Program)
  | [] => pure []
  | column :: rest => do
    let first ← read env column leaf
    let others ← readAll leaf rest
    pure (first :: others)

def constant (value : Value) : Planning Program := do
  let into ← fresh
  pure (Program.single (.constant value into) into)

def pack (form : SequenceForm) (items : List Program) : Planning Program := do
  let into ← fresh
  pure
    ⟨items.flatMap ProgramOf.steps ++ [.pack form (items.map ProgramOf.result) into], into⟩

/-- Below the root a target without columns is left out. -/
def isAbsent (site : Site) : Planning Bool := do
  pure (!site.isRoot && (← available env site.scope).isEmpty)

end Planning

end Unflatten
