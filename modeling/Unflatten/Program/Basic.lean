import Unflatten.Conversion
import Unflatten.Failure
import Unflatten.Settings

/-!
# Programs

A program builds a value from a row in steps. Each step writes a register; one register holds the
result. Two steps contain programs of their own: a reuse updates an existing value or creates a new
one, a selection takes the first branch that accepts the row. `Step.span` is the count of registers
that a program needs, in machine words.
-/

set_option autoImplicit false

namespace Unflatten

/-- Registers are numbered by machine words. -/
abbrev Register := Nat

/-- The greatest machine word. -/
def Register.last : Register := 18446744073709551615

/-- The register behind another; behind the last one comes the first again. -/
def Register.next (register : Register) : Register :=
  (register + 1) % (last + 1)

/-- Holds the value that a row is mapped onto, or null. -/
def existingRegister : Register := 0

/-- Which existing values are kept. -/
inductive Expectation where
  | object
  | sequence
  | map
  | present
  deriving DecidableEq, Repr

def Expectation.accepts : Expectation → Value → Bool
  | object, .object _ _ => true
  | sequence, .sequence .list _ => true
  | sequence, .sequence .array _ => true
  | map, .map _ => true
  | present, value => !value.isNull
  | _, _ => false

structure CellPlace where
  index : Nat
  name : String
  deriving DecidableEq, Repr

structure ProgramOf (σ : Type) where
  steps : List σ
  result : Register

structure BranchOf (σ : Type) where
  accepts : Row → Bool
  label : String
  program : ProgramOf σ

/-- `into` is the register that a step writes. An absent sequence or dictionary type stands for
plain lists and maps. -/
inductive Step where
  | read (column : CellPlace) (conversion : Conversion) (into : Register)
  | constant (value : Value) (into : Register)
  | construct (type : ObjectType) (constructor : Constructor) (arguments : List Register)
      (into : Register)
  | produce (factory : Factory) (into : Register)
  | reuse (existing : Register) (expectation : Expectation) (update create : ProgramOf Step)
      (into : Register)
  | project (source : Register) (field : String) (into : Register)
  | assign (target : Register) (field : String) (source : Register)
  | startSequence (type : Option SequenceType) (into : Register)
  | addItem (type : Option SequenceType) (target item : Register)
  | startMap (type : Option DictionaryType) (into : Register)
  | addEntry (type : Option DictionaryType) (target : Register) (key : String) (item : Register)
  | pack (form : SequenceForm) (items : List Register) (into : Register)
  | select (branches : List (BranchOf Step)) (fallback : ProgramOf Step) (into : Register)
  | fail (failure : Failure)

instance : Inhabited Step := ⟨.constant .null 0⟩

abbrev Program := ProgramOf Step
abbrev Branch := BranchOf Step

namespace Program

def single (step : Step) (result : Register) : Program :=
  ⟨[step], result⟩

def keep (result : Register) : Program :=
  ⟨[], result⟩

end Program

/-! ## Span -/

def greatestRegister (start : Register) (registers : List Register) : Register :=
  registers.foldl max start

mutual

/-- The register behind the greatest one of the step, or that of a program in it. -/
def Step.span : Step → Nat
  | .read _ _ into => Register.next into
  | .constant _ into => Register.next into
  | .construct _ _ arguments into => Register.next (greatestRegister into arguments)
  | .produce _ into => Register.next into
  | .reuse existing _ update create into =>
    max (Register.next (max existing into)) (max (programSpan update) (programSpan create))
  | .project source _ into => Register.next (max source into)
  | .assign target _ source => Register.next (max target source)
  | .startSequence _ into => Register.next into
  | .addItem _ target item => Register.next (max target item)
  | .startMap _ into => Register.next into
  | .addEntry _ target _ item => Register.next (max target item)
  | .pack _ items into => Register.next (greatestRegister into items)
  | .select branches fallback into =>
    max (Register.next into) (max (branchSpan branches) (programSpan fallback))
  | .fail _ => Register.next 0

def stepsSpan : List Step → Nat
  | [] => 0
  | step :: rest => max (Step.span step) (stepsSpan rest)

def programSpan : ProgramOf Step → Nat
  | ⟨steps, result⟩ => max (Register.next result) (stepsSpan steps)

def branchSpan : List (BranchOf Step) → Nat
  | [] => 0
  | ⟨_, _, program⟩ :: rest => max (programSpan program) (branchSpan rest)

end

end Unflatten
