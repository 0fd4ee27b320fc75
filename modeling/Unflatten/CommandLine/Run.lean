import Unflatten.CommandLine.Command
import Unflatten.Delimited.Source
import Unflatten.Mapper
import Unflatten.Shape.Basic
import Unflatten.Table
import Unflatten.Yaml.Reader

/-!
# Running commands

A command is run on the texts of the files that it names. It leaves a status, an output and
messages. A failure is told with all that was being done when it arose; what was written before it
stays.
-/

set_option autoImplicit false

namespace Unflatten.CommandLine

structure Report where
  status : Nat := 0
  output : String := ""
  messages : String := ""
  deriving DecidableEq, Repr

/-- The texts that a command can read. -/
structure Surroundings where
  fileText? : String → Option String
  standardInput : String

/-- What was being done, the outermost first, and the cause in the end. -/
abbrev Complaint := List String

namespace Report

def usage : Report := { status := 2 }

def failed (output messages : String) (complaint : Complaint) : Report :=
  ⟨1, output, messages ++ "error: " ++ Text.join ": " complaint ++ "\n"⟩

end Report

def missingFile : String := "No such file or directory (os error 2)"

def fileText (around : Surroundings) (action path : String) : Except Complaint String :=
  match around.fileText? path with
  | some text => .ok text
  | none => .error [action ++ " " ++ Text.quoted path, missingFile]

def loadShape (around : Surroundings) (path : String) : Except Complaint Shape := do
  let text ← fileText around "Opening shape file" path
  match (Yaml.read? text).bind ShapeOutline.ofMarkup? with
  | none => .error ["Parsing shape file " ++ Text.quoted path]
  | some document =>
    match Shape.ofOutline 0 document with
    | .ok (shape, _) => .ok shape
    | .error failure => .error ["Building shape from " ++ Text.quoted path, failure.message]

def readTypes (texts : List String) : Except Complaint Delimited.DeclaredTypes :=
  match Delimited.readTypes texts with
  | .ok types => .ok types
  | .error fault => .error (fault.message :: (fault.failure?.map Failure.message).toList)

def inputText (around : Surroundings) (input : Delimited.Input) : Except Complaint String :=
  match input with
  | .standard => .ok around.standardInput
  | .file path => fileText around "Opening input file" path

def openInput (around : Surroundings) (path : String) (delimiter : Option Char)
    (types : Delimited.DeclaredTypes) : Except Complaint DelimitedSource := do
  let input := Delimited.Input.ofPath path
  let text ← inputText around input
  match DelimitedSource.ofText (input.delimiter delimiter) text types with
  | .ok source => .ok source
  | .error failure => .error ["Reading headers from " ++ input.describe, failure.message]

/-! ## Mapping -/

def MapCommand.settings (command : MapCommand) (shape : Shape) : Settings :=
  match command.separator with
  | some separator => { shape.settings with separator }
  | none => shape.settings

def MapCommand.declaredTypes (command : MapCommand) (shape : Shape) :
    Except Complaint Delimited.DeclaredTypes :=
  if command.types.isEmpty then .ok shape.declaredTypes else readTypes command.types

def MapCommand.line (command : MapCommand) (value : Value) : String :=
  (if command.isPretty then value.json.pretty else value.json.compact) ++ "\n"

structure Prepared where
  source : DelimitedSource
  mapper : Mapper

def MapCommand.prepare (command : MapCommand) (around : Surroundings) :
    Except Complaint Prepared := do
  let shape ← loadShape around command.shape
  let types ← command.declaredTypes shape
  let source ← openInput around command.input command.delimiter types
  let header := Header.ofColumns source.columns
  match Mapper.make .standard shape.bindings shape.root header (command.settings shape) with
  | .ok mapper => .ok ⟨source, mapper⟩
  | .error failure =>
    .error ["Compiling mapper for " ++ shape.root.typeName, failure.message]

/-- The lines of the rows, from the row `row` on, up to the first that fails. -/
def MapCommand.lines (command : MapCommand) (row : Nat) :
    List (Except Failure Value) → List String × Option Complaint
  | [] => ([], none)
  | .error failure :: _ => ([], some ["Mapping row " ++ Digits.text row, failure.message])
  | .ok value :: rest =>
    let others := command.lines (row + 1) rest
    (command.line value :: others.1, others.2)

def MapCommand.run (command : MapCommand) (around : Surroundings) : Report :=
  match command.prepare around with
  | .error complaint => Report.failed "" "" complaint
  | .ok prepared =>
    let messages := if command.explains then prepared.mapper.describe ++ "\n" else ""
    let rows := mapSource (fun _ => .ok prepared.mapper) prepared.source
    let lines := command.lines 1 rows
    let output := String.join lines.1
    match lines.2 with
    | some complaint => Report.failed output messages complaint
    | none => { output, messages }

/-! ## Listing columns -/

def ColumnsCommand.table (command : ColumnsCommand) (around : Surroundings) :
    Except Complaint Table := do
  let types ← readTypes command.types
  let source ← openInput around command.input command.delimiter types
  .ok (Table.ofHeader (Header.ofColumns source.columns) command.separator)

def ColumnsCommand.run (command : ColumnsCommand) (around : Surroundings) : Report :=
  match command.table around with
  | .ok table => { output := table.text }
  | .error complaint => Report.failed "" "" complaint

def Command.run (command : Command) (around : Surroundings) : Report :=
  match command with
  | .map command => command.run around
  | .columns command => command.run around

def run (arguments : List String) (around : Surroundings) : Report :=
  match Command.ofArguments arguments with
  | some command => command.run around
  | none => Report.usage

end Unflatten.CommandLine
