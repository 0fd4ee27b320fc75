import Unflatten.CommandLine.Options
import Unflatten.Delimited.Delimiter

/-!
# Commands

`map` maps each row of a delimited text to the root target of a shape, `columns` lists the columns
of a text. A path must not be empty.
-/

set_option autoImplicit false

namespace Unflatten.CommandLine

structure MapCommand where
  input : String
  shape : String
  types : List String
  separator : Option String
  delimiter : Option Char
  explains : Bool
  isPretty : Bool

structure ColumnsCommand where
  input : String
  types : List String
  separator : String
  delimiter : Option Char

inductive Command where
  | map (command : MapCommand)
  | columns (command : ColumnsCommand)

namespace Command

def columnsRules : List OptionRule :=
  [{ name := "input", letter := some 'i' },
    { name := "types", letter := some 't', arity := .repeated },
    { name := "separator" },
    { name := "delimiter" }]

def mapRules : List OptionRule :=
  columnsRules ++
    [{ name := "shape", letter := some 's' },
      { name := "explain", arity := .flag },
      { name := "pretty", arity := .flag }]

def path? (given : List Given) (name : String) : Option String :=
  (valueOf? given name).filter fun path => !path.isEmpty

/-- The outer option is missing where the delimiter is none. -/
def delimiter? (given : List Given) : Option (Option Char) :=
  match valueOf? given "delimiter" with
  | none => some none
  | some text =>
    match Delimited.readDelimiter text with
    | .ok delimiter => some (some delimiter)
    | .error _ => none

def map? (given : List Given) : Option MapCommand := do
  let input ← path? given "input"
  let shape ← path? given "shape"
  let delimiter ← delimiter? given
  some
    { input, shape, delimiter
      types := valuesOf given "types"
      separator := valueOf? given "separator"
      explains := has given "explain"
      isPretty := has given "pretty" }

def columns? (given : List Given) : Option ColumnsCommand := do
  let input ← path? given "input"
  let delimiter ← delimiter? given
  some
    { input, delimiter
      types := valuesOf given "types"
      separator := (valueOf? given "separator").getD "_" }

def ofArguments : List String → Option Command
  | "map" :: rest => (readOptions mapRules rest).bind fun given => (map? given).map .map
  | "columns" :: rest =>
    (readOptions columnsRules rest).bind fun given => (columns? given).map .columns
  | _ => none

end Command

end Unflatten.CommandLine
