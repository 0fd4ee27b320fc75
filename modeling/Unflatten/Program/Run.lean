import Unflatten.Program.Basic

/-!
# Running programs

A program runs on a row and a file of registers, all null at the start but the one that holds the
existing value. Taking a value out of a register leaves null behind. A plan is a program with a
register file that is large enough for it.
-/

set_option autoImplicit false

namespace Unflatten

abbrev Registers := Array Value

namespace Registers

/-- Register zero holds `existing`, the others null. -/
def start (count : Nat) (existing : Value) : Registers :=
  (Array.replicate count Value.null).setIfInBounds existingRegister existing

def get (registers : Registers) (register : Register) : Value :=
  registers[register]?.getD .null

def write (registers : Registers) (register : Register) (value : Value) : Registers :=
  registers.setIfInBounds register value

def take (registers : Registers) (register : Register) : Value × Registers :=
  (registers.get register, registers.write register .null)

def takeAll (registers : Registers) : List Register → List Value × Registers
  | [] => ([], registers)
  | register :: rest =>
    let first := registers.take register
    let others := takeAll first.2 rest
    (first.1 :: others.1, others.2)

def move (registers : Registers) (source into : Register) : Registers :=
  let taken := registers.take source
  taken.2.write into taken.1

end Registers

namespace Value

/-- The field of an object, letter case aside where no field has the exact name. -/
def field (value : Value) (name : String) : Value :=
  match value with
  | object typeName fields => ((Object.mk typeName fields).getIgnoringCase? name).getD null
  | _ => null

/-- Only objects have fields to set. -/
def setField (value : Value) (name : String) (item : Value) : Value :=
  match value with
  | object typeName fields => ((Object.mk typeName fields).set name item).toValue
  | other => other

end Value

/-- The empty instance of a sequence type, or an empty list. -/
def newSequence : Option SequenceType → Except Failure Value
  | none => .ok (.list [])
  | some type =>
    match type.seed with
    | some value => .ok value
    | none => .error (.noPlan type.name)

def newMap : Option DictionaryType → Except Failure Value
  | none => .ok (.map [])
  | some type =>
    match type.seed with
    | some value => .ok value
    | none => .error (.noPlan type.name)

def addItem (type : Option SequenceType) (target item : Value) : Value :=
  match type with
  | some type => type.add target item
  | none => target.push item

def insertItem (type : Option DictionaryType) (target : Value) (key : String) (item : Value) :
    Value :=
  match type with
  | some type => type.insert target key item
  | none => target.insertKey key item

def readColumn (row : Row) (column : CellPlace) (conversion : Conversion) : Except Failure Value :=
  match conversion.apply (row.value column.index) with
  | .ok value => .ok value
  | .error _ =>
    .error
      (.unconvertible column.name conversion.source conversion.leaf.describe
        (row.value column.index).display)

def produceInstance (row : Row) (factory : Factory) : Except Failure Value :=
  match factory.make row with
  | some object => .ok object.toValue
  | none => .error (.barrenFactory factory.produces.name)

def writeOutcome (registers : Registers) (into : Register) (outcome : Except Failure Value) :
    Except Failure Registers :=
  outcome.map fun value => registers.write into value

mutual

def runStep (row : Row) (registers : Registers) : Step → Except Failure Registers
  | .read column conversion into =>
    writeOutcome registers into (readColumn row column conversion)
  | .constant value into => .ok (registers.write into value)
  | .construct type constructor arguments into =>
    let taken := registers.takeAll arguments
    .ok (taken.2.write into (constructor.construct type taken.1).toValue)
  | .produce factory into => writeOutcome registers into (produceInstance row factory)
  | .reuse existing expectation update create into =>
    if expectation.accepts (registers.get existing) then runInto row registers update into
    else runInto row registers create into
  | .project source field into => .ok (registers.write into ((registers.get source).field field))
  | .assign target field source =>
    let taken := registers.take source
    .ok (taken.2.write target ((taken.2.get target).setField field taken.1))
  | .startSequence type into => writeOutcome registers into (newSequence type)
  | .addItem type target item =>
    let taken := registers.take item
    .ok (taken.2.write target (addItem type (taken.2.get target) taken.1))
  | .startMap type into => writeOutcome registers into (newMap type)
  | .addEntry type target key item =>
    let taken := registers.take item
    .ok (taken.2.write target (insertItem type (taken.2.get target) key taken.1))
  | .pack form items into =>
    let taken := registers.takeAll items
    .ok (taken.2.write into (.sequence form taken.1))
  | .select branches fallback into =>
    match runBranches row registers branches into with
    | some outcome => outcome
    | none => runInto row registers fallback into
  | .fail failure => .error failure

def runSteps (row : Row) (registers : Registers) : List Step → Except Failure Registers
  | [] => .ok registers
  | step :: rest =>
    match runStep row registers step with
    | .ok next => runSteps row next rest
    | .error failure => .error failure

def runInto (row : Row) (registers : Registers) :
    ProgramOf Step → Register → Except Failure Registers
  | ⟨steps, result⟩, into =>
    match runSteps row registers steps with
    | .ok next => .ok (next.move result into)
    | .error failure => .error failure

def runBranches (row : Row) (registers : Registers) :
    List (BranchOf Step) → Register → Option (Except Failure Registers)
  | [], _ => none
  | ⟨accepts, _, program⟩ :: rest, into =>
    if accepts row then some (runInto row registers program into)
    else runBranches row registers rest into

end

/-! ## Plans -/

structure Plan where
  program : Program
  registerCount : Nat

namespace Plan

/-- At least `requested` registers, and as many as the program needs. -/
def ofProgram (program : Program) (requested : Nat) : Plan :=
  ⟨program, max requested (programSpan program)⟩

def run (plan : Plan) (row : Row) (existing : Value) : Except Failure Value :=
  match runSteps row (Registers.start plan.registerCount existing) plan.program.steps with
  | .ok registers => .ok (registers.get plan.program.result)
  | .error failure => .error failure

end Plan

end Unflatten
