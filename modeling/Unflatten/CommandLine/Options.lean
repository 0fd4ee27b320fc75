import Unflatten.Text.Basic

/-!
# Options of a command line

An option is written `--name value`, `--name=value`, `-l value`, `-l=value` or `-lvalue`, a flag
`--name`. What starts with a hyphen is no value unless it is a lone hyphen. Nothing but options is
allowed, and only options that collect their values may be repeated.
-/

set_option autoImplicit false

namespace Unflatten.CommandLine

inductive Arity where
  | flag
  | single
  | repeated
  deriving DecidableEq, Repr

structure OptionRule where
  name : String
  letter : Option Char := none
  arity : Arity := .single

structure Given where
  name : String
  value : String
  deriving DecidableEq, Repr

def isValue (argument : String) : Bool :=
  match argument.toList with
  | '-' :: _ :: _ => false
  | _ => true

def splitValue (chars : List Char) : String × Option String :=
  let name := chars.takeWhile (· ≠ '=')
  match chars.drop name.length with
  | [] => (String.ofList name, none)
  | _ :: value => (String.ofList name, some (String.ofList value))

def attached : List Char → Option String
  | [] => none
  | '=' :: value => some (String.ofList value)
  | value => some (String.ofList value)

/-- The option that an argument names, with a value that the argument itself holds. -/
def optionOf? (rules : List OptionRule) (argument : String) :
    Option (OptionRule × Option String) :=
  match argument.toList with
  | '-' :: '-' :: chars =>
    let (name, value) := splitValue chars
    (rules.find? fun rule => rule.name == name).map fun rule => (rule, value)
  | '-' :: letter :: chars =>
    (rules.find? fun rule => rule.letter == some letter).map fun rule => (rule, attached chars)
  | _ => none

def isAdmissible (given : List Given) (rule : OptionRule) : Bool :=
  rule.arity = .repeated || (given.filter fun option => option.name == rule.name).length ≤ 1

def collect (rules : List OptionRule) : List String → Option (List Given)
  | [] => some []
  | "--" :: rest => if rest.isEmpty then some [] else none
  | argument :: rest =>
    match optionOf? rules argument, rest with
    | none, _ => none
    | some (rule, some value), rest =>
      if rule.arity = .flag then none
      else (collect rules rest).map (⟨rule.name, value⟩ :: ·)
    | some (rule, none), [] => if rule.arity = .flag then some [⟨rule.name, ""⟩] else none
    | some (rule, none), value :: rest =>
      if rule.arity = .flag then (collect rules (value :: rest)).map (⟨rule.name, ""⟩ :: ·)
      else if isValue value then (collect rules rest).map (⟨rule.name, value⟩ :: ·)
      else none

def readOptions (rules : List OptionRule) (arguments : List String) : Option (List Given) :=
  (collect rules arguments).filter fun given => rules.all (isAdmissible given)

def valueOf? (given : List Given) (name : String) : Option String :=
  (given.find? fun option => option.name == name).map Given.value

def valuesOf (given : List Given) (name : String) : List String :=
  (given.filter fun option => option.name == name).map Given.value

def has (given : List Given) (name : String) : Bool :=
  given.any fun option => option.name == name

end Unflatten.CommandLine
