import Unflatten.Calendar.Format
import Unflatten.Value.Basic

/-!
# Cells written as text

`readCell` reads the text of a cell as a value of a column's type. Empty text is the missing value.
Strings keep their blanks; every other type looks at the trimmed text.
-/

set_option autoImplicit false

namespace Unflatten

/-- What is wrong with the text. -/
inductive ReadFault where
  | boolean
  | integer (kind : IntKind) (fault : IntFault)
  | floating (type : ScalarType) (isEmpty : Bool)
  | decimal (fault : Decimal.Fault)
  | guid (fault : Guid.Fault)
  | date
  | dateTime
  | time
  | binary (fault : Hex.Fault)
  deriving DecidableEq, Repr

structure ReadError where
  text : String
  fault : ReadFault
  deriving DecidableEq, Repr

namespace ReadFault

def label : ReadFault → String
  | boolean => "boolean"
  | integer kind _ => kind.name
  | floating type _ => type.name
  | decimal _ => "decimal"
  | guid _ => "GUID"
  | date => "date"
  | dateTime => "datetime"
  | time => "time"
  | binary _ => "binary"

def cause? : ReadFault → Option String
  | integer _ fault => some fault.message
  | floating _ isEmpty =>
    some (if isEmpty then "cannot parse float from empty string" else "invalid float literal")
  | decimal fault => some fault.message
  | guid fault => some fault.message
  | binary (.badStep fault) => some fault.message
  | binary .cutCharacter => some "a step of two bytes cuts a character"
  | boolean | date | dateTime | time | binary .oddLength => none

end ReadFault

namespace ReadError

def message (error : ReadError) : String :=
  let base := "Failed to parse '" ++ error.text ++ "' as " ++ error.fault.label
  if error.fault = .binary .oddLength then base ++ ": odd number of hex digits" else base

def fullMessage (error : ReadError) : String :=
  match error.fault.cause? with
  | some cause => error.message ++ ": " ++ cause
  | none => error.message

end ReadError

def trueWords : List (List Char) :=
  [['t', 'r', 'u', 'e'], ['t'], ['y', 'e', 's'], ['y'], ['1']]

def falseWords : List (List Char) :=
  [['f', 'a', 'l', 's', 'e'], ['f'], ['n', 'o'], ['n'], ['0']]

def readBool? (chars : List Char) : Option Bool :=
  let word := (Text.trimChars chars).map Char.toLower
  if word ∈ trueWords then some true else if word ∈ falseWords then some false else none

def readScalar (type : ScalarType) (chars : List Char) : Except ReadFault Value :=
  match type with
  | .string | .object => .ok (.string (String.ofList chars))
  | .bool =>
    match readBool? chars with
    | some b => .ok (.bool b)
    | none => .error .boolean
  | .int kind =>
    match FixedInt.read kind chars with
    | .ok n => .ok (.int kind n)
    | .error fault => .error (.integer kind fault)
  | .float32 =>
    match Floating.read? .single chars with
    | some x => .ok (.float32 x)
    | none => .error (.floating .float32 chars.isEmpty)
  | .float64 =>
    match Floating.read? .double chars with
    | some x => .ok (.float64 x)
    | none => .error (.floating .float64 chars.isEmpty)
  | .decimal =>
    match Decimal.read chars with
    | .ok d => .ok (.decimal d)
    | .error fault => .error (.decimal fault)
  | .guid =>
    match Guid.read chars with
    | .ok g => .ok (.guid g)
    | .error fault => .error (.guid fault)
  | .date =>
    match Calendar.readDate? chars with
    | some d => .ok (.date d)
    | none => .error .date
  | .dateTime =>
    match Calendar.readDateTime? chars with
    | some moment => .ok (.dateTime moment)
    | none => .error .dateTime
  | .time =>
    match Calendar.readTime? chars with
    | some t => .ok (.time t)
    | none => .error .time
  | .binary =>
    match Hex.decode chars with
    | .ok bytes => .ok (.binary bytes)
    | .error fault => .error (.binary fault)

def readCell (type : ScalarType) (text : String) : Except ReadError (Option Value) :=
  if text.isEmpty then .ok none
  else
    let chars :=
      match type with
      | .string | .object => text.toList
      | _ => Text.trimChars text.toList
    match readScalar type chars with
    | .ok value => .ok (some value)
    | .error fault => .error ⟨String.ofList chars, fault⟩

end Unflatten
