import Unflatten.Entries
import Unflatten.Markup
import Unflatten.Number.FixedInt

/-!
# Outlines of shapes

The outline of a shape names the root target, the settings, the types of columns and the definitions
of custom types, all by texts. `ofMarkup?` reads it from a tree: fields that are not known are
refused where the format says so, and no field may be given twice, be it under a second name.
-/

set_option autoImplicit false

namespace Unflatten

structure SettingsOutline where
  separator : String := "_"
  sentinel : String := ""

inductive VariantDefinition where
  | named (name : String)
  | valued (name : String) (value : FixedInt .int64)

structure EnumDefinition where
  name : String
  variants : List VariantDefinition

structure PropertyDefinition where
  name : String
  type : String
  isPrivate : Bool
  isReadOnly : Bool
  isWriteOnly : Bool
  isSink : Bool

structure ParameterDefinition where
  name : String
  type : String
  isSink : Bool

structure ConstructorDefinition where
  parameters : List ParameterDefinition
  isPrivate : Bool
  isStatic : Bool

structure SubtypeDefinition where
  condition : String
  type : String

structure ObjectDefinition where
  name : String
  isAbstract : Bool
  base : Option String
  properties : List PropertyDefinition
  constructors : List ConstructorDefinition
  preferred : Option Nat
  default : Option String
  subtypes : List SubtypeDefinition

structure SequenceDefinition where
  name : String
  element : String

structure DictionaryDefinition where
  name : String
  value : String

structure ShapeOutline where
  root : String
  settings : SettingsOutline
  columns : Entries String
  enums : List EnumDefinition
  types : List ObjectDefinition
  sequences : List SequenceDefinition
  dictionaries : List DictionaryDefinition

/-! ## Reading -/

namespace ShapeOutline

/-- The names of the fields of a record. Each second name stands for the first one. -/
structure Layout where
  names : List String
  secondNames : List (String × String) := []
  allowsOthers : Bool := false

abbrev Fields := List (String × Markup)

def Layout.canonical (layout : Layout) (name : String) : String :=
  (layout.secondNames.lookup name).getD name

def Layout.namedFields? (layout : Layout) (entries : List (String × Markup)) : Option Fields :=
  let renamed := entries.map fun (name, value) => (layout.canonical name, value)
  let known := renamed.filter fun entry => layout.names.contains entry.1
  let isComplete := known.length == renamed.length
  if (isComplete || layout.allowsOthers) && (known.map Prod.fst).eraseDups.length == known.length
  then some known
  else none

/-- Fields by their names, or the first fields by their places. -/
def Layout.fields? (layout : Layout) (node : Markup) : Option Fields :=
  match node with
  | .positional items =>
    if items.length ≤ layout.names.length then some (layout.names.zip items) else none
  | other => other.mapping?.bind layout.namedFields?

variable {α : Type}

def required? (fields : Fields) (name : String) (read : Markup → Option α) : Option α :=
  (fields.lookup name).bind read

def defaulted? (fields : Fields) (name : String) (fallback : α) (read : Markup → Option α) :
    Option α :=
  match fields.lookup name with
  | some node => read node
  | none => some fallback

def optional? (fields : Fields) (name : String) (read : Markup → Option α) : Option (Option α) :=
  match fields.lookup name with
  | some node => if node.isMissing then some none else (read node).map some
  | none => some none

def listOf? (read : Markup → Option α) (node : Markup) : Option (List α) :=
  node.list?.bind fun items => items.mapM read

def flag? (fields : Fields) (name : String) : Option Bool :=
  defaulted? fields name false Markup.truth?

def position? (node : Markup) : Option Nat :=
  match node.integer? with
  | some n => if 0 ≤ n ∧ n ≤ IntKind.uint64.greatest then some n.toNat else none
  | none => none

def settings? (node : Markup) : Option SettingsOutline := do
  let layout : Layout :=
    { names := ["separator", "unnamed_column_sentinel"]
      secondNames := [("unnamed_sentinel", "unnamed_column_sentinel")]
      allowsOthers := true }
  let fields ← layout.fields? node
  let separator ← defaulted? fields "separator" "_" Markup.text?
  let sentinel ← defaulted? fields "unnamed_column_sentinel" "" Markup.text?
  some ⟨separator, sentinel⟩

def int64? (node : Markup) : Option (FixedInt .int64) :=
  match node with
  | .integer n => FixedInt.ofInt? .int64 n
  | _ => none

def typedText? (node : Markup) : Option String :=
  match node with
  | .string text => some text
  | _ => none

def valued? (name value : Markup) : Option VariantDefinition := do
  let name ← typedText? name.typed
  let value ← int64? value.typed
  some (.valued name value)

/-- A variant is a name or a name with a value; a scalar that is a number, a truth value or null is
no name. -/
def variant? (node : Markup) : Option VariantDefinition :=
  match node.typed with
  | .string name => some (.named name)
  | .mapping entries =>
    let layout : Layout := { names := ["name", "value"], allowsOthers := true }
    match layout.namedFields? entries with
    | none => none
    | some fields =>
      match fields.lookup "name", fields.lookup "value" with
      | some name, some value => valued? name value
      | _, _ => none
  | _ => none

def enum? (node : Markup) : Option EnumDefinition := do
  let layout : Layout := { names := ["name", "variants"], allowsOthers := true }
  let fields ← layout.fields? node
  let name ← required? fields "name" Markup.text?
  let variants ← required? fields "variants" (listOf? variant?)
  some ⟨name, variants⟩

def property? (node : Markup) : Option PropertyDefinition := do
  let layout : Layout :=
    { names := ["name", "type", "private", "read_only", "write_only", "sink"] }
  let fields ← layout.fields? node
  let name ← required? fields "name" Markup.text?
  let type ← required? fields "type" Markup.text?
  let isPrivate ← flag? fields "private"
  let isReadOnly ← flag? fields "read_only"
  let isWriteOnly ← flag? fields "write_only"
  let isSink ← flag? fields "sink"
  some ⟨name, type, isPrivate, isReadOnly, isWriteOnly, isSink⟩

def parameter? (node : Markup) : Option ParameterDefinition := do
  let layout : Layout := { names := ["name", "type", "sink"] }
  let fields ← layout.fields? node
  let name ← required? fields "name" Markup.text?
  let type ← required? fields "type" Markup.text?
  let isSink ← flag? fields "sink"
  some ⟨name, type, isSink⟩

def constructor? (node : Markup) : Option ConstructorDefinition := do
  let layout : Layout := { names := ["params", "private", "static"] }
  let fields ← layout.fields? node
  let parameters ← defaulted? fields "params" [] (listOf? parameter?)
  let isPrivate ← flag? fields "private"
  let isStatic ← flag? fields "static"
  some ⟨parameters, isPrivate, isStatic⟩

def subtype? (node : Markup) : Option SubtypeDefinition := do
  let layout : Layout := { names := ["when", "type"] }
  let fields ← layout.fields? node
  let condition ← required? fields "when" Markup.text?
  let type ← required? fields "type" Markup.text?
  some ⟨condition, type⟩

def object? (node : Markup) : Option ObjectDefinition := do
  let layout : Layout :=
    { names :=
        ["name", "abstract", "extends", "properties", "constructors", "preferred_constructor",
          "default_concrete", "subtypes"]
      secondNames := [("default", "default_concrete")] }
  let fields ← layout.fields? node
  let name ← required? fields "name" Markup.text?
  let isAbstract ← flag? fields "abstract"
  let base ← optional? fields "extends" Markup.text?
  let properties ← defaulted? fields "properties" [] (listOf? property?)
  let constructors ← defaulted? fields "constructors" [] (listOf? constructor?)
  let preferred ← optional? fields "preferred_constructor" position?
  let default ← optional? fields "default_concrete" Markup.text?
  let subtypes ← defaulted? fields "subtypes" [] (listOf? subtype?)
  some ⟨name, isAbstract, base, properties, constructors, preferred, default, subtypes⟩

def sequence? (node : Markup) : Option SequenceDefinition := do
  let layout : Layout := { names := ["name", "element"] }
  let fields ← layout.fields? node
  let name ← required? fields "name" Markup.text?
  let element ← required? fields "element" Markup.text?
  some ⟨name, element⟩

def dictionary? (node : Markup) : Option DictionaryDefinition := do
  let layout : Layout := { names := ["name", "value"] }
  let fields ← layout.fields? node
  let name ← required? fields "name" Markup.text?
  let value ← required? fields "value" Markup.text?
  some ⟨name, value⟩

def columns? (node : Markup) : Option (Entries String) := do
  let entries ← node.mapping?
  let types ← entries.mapM fun (entry : String × Markup) => do
    some (entry.1, ← entry.2.text?)
  some (Entries.ofList types)

def ofMarkup? (node : Markup) : Option ShapeOutline := do
  let layout : Layout :=
    { names := ["root", "settings", "columns", "enums", "types", "collections", "maps"] }
  let fields ← layout.fields? node
  let root ← required? fields "root" Markup.text?
  let settings ← defaulted? fields "settings" {} settings?
  let columns ← defaulted? fields "columns" [] columns?
  let enums ← defaulted? fields "enums" [] (listOf? enum?)
  let types ← defaulted? fields "types" [] (listOf? object?)
  let sequences ← defaulted? fields "collections" [] (listOf? sequence?)
  let dictionaries ← defaulted? fields "maps" [] (listOf? dictionary?)
  some ⟨root, settings, columns, enums, types, sequences, dictionaries⟩

end ShapeOutline

end Unflatten
