import Unflatten.CellText
import Unflatten.Condition.Datum

/-!
# Functions of conditions

The functions on text, dates and missing values, and the general ones on numbers. A function gets
one argument; several are written as a tuple.
-/

set_option autoImplicit false

namespace Unflatten.Condition

inductive Fault where
  | malformed
  | conflictingNames
  | unknownVariable (name : String)
  | unknownFunction (name : String)
  | operandCount
  | wrongKind
  | arithmetic
  | assignment
  | argumentCount (function : String) (expected : Nat)
  | tupleLength (expected found : Nat)
  | notText (found : Datum)
  | notDate (text : String)

def Fault.message? : Fault → Option String
  | argumentCount function expected =>
    some (function ++ "() takes " ++ Digits.text expected ++ " arguments")
  | notText found => some ("expected a string, got " ++ found.describe)
  | notDate text => some (ReadError.message ⟨text, .date⟩)
  | _ => none

/-! ## Row functions -/

inductive RowFunction where
  | lowercase
  | uppercase
  | trim
  | length
  | startsWith
  | contains
  | isNull
  | daysBetween
  deriving DecidableEq, Repr

namespace RowFunction

def name : RowFunction → String
  | lowercase => "lowercase"
  | uppercase => "uppercase"
  | trim => "trim"
  | length => "len"
  | startsWith => "starts_with"
  | contains => "contains"
  | isNull => "is_null"
  | daysBetween => "days_between"

def all : List RowFunction :=
  [lowercase, uppercase, trim, length, startsWith, contains, isNull, daysBetween]

def ofName? (text : String) : Option RowFunction :=
  all.find? fun function => function.name == text

def text (datum : Datum) : Except Fault String :=
  match datum with
  | .text content => .ok content
  | other => .error (.notText other)

def date (datum : Datum) : Except Fault Date :=
  match text datum with
  | .error fault => .error fault
  | .ok content =>
    match Calendar.readDate? content.toList with
    | some date => .ok date
    | none => .error (.notDate content)

def pair (function : RowFunction) (argument : Datum) : Except Fault (Datum × Datum) :=
  match argument with
  | .tuple [first, second] => .ok (first, second)
  | .tuple items => .error (.tupleLength 2 items.length)
  | _ => .error (.argumentCount function.name 2)

def onText (argument : Datum) (f : String → Datum) : Except Fault Datum :=
  (text argument).map f

def onTexts (function : RowFunction) (argument : Datum) (f : String → String → Bool) :
    Except Fault Datum :=
  match pair function argument with
  | .error fault => .error fault
  | .ok (first, second) =>
    match text first, text second with
    | .ok first, .ok second => .ok (.bool (f first second))
    | .error fault, _ => .error fault
    | _, .error fault => .error fault

def apply (function : RowFunction) (argument : Datum) : Except Fault Datum :=
  match function with
  | lowercase => onText argument fun content => .text (Text.lower content)
  | uppercase => onText argument fun content => .text (Text.upper content)
  | trim => onText argument fun content => .text (Text.trim content)
  | length => onText argument fun content => Datum.ofInteger content.length
  | startsWith => onTexts function argument Text.startsWith
  | contains => onTexts function argument Text.contains
  | isNull => .ok (.bool (argument.kind == .empty))
  | daysBetween =>
    match pair function argument with
    | .error fault => .error fault
    | .ok (first, second) =>
      match date first, date second with
      | .ok first, .ok second => .ok (Datum.ofInteger (first.daysUntil second))
      | .error fault, _ => .error fault
      | _, .error fault => .error fault

end RowFunction

/-! ## General functions -/

def greatestInt : FixedInt .int64 :=
  ⟨IntKind.greatest .int64, by decide, by decide⟩

def leastInt : FixedInt .int64 :=
  ⟨IntKind.least .int64, by decide, by decide⟩

def doubleOf (n : FixedInt .int64) : Double :=
  Floating.ofInt .double n.val

/-- The least integer and the least double of a tuple, each starting from the greatest there is. -/
def minimum : FixedInt .int64 → Double → List Datum → Except Fault Datum
  | least, leastDouble, [] =>
    .ok (if (doubleOf least).less leastDouble then .int least else .float leastDouble)
  | least, leastDouble, .int n :: rest =>
    minimum (if n.val < least.val then n else least) leastDouble rest
  | least, leastDouble, .float x :: rest => minimum least (leastDouble.least x) rest
  | _, _, _ :: _ => .error .wrongKind

def maximum : FixedInt .int64 → Double → List Datum → Except Fault Datum
  | greatest, greatestDouble, [] =>
    .ok (if greatestDouble.less (doubleOf greatest) then .int greatest else .float greatestDouble)
  | greatest, greatestDouble, .int n :: rest =>
    maximum (if greatest.val < n.val then n else greatest) greatestDouble rest
  | greatest, greatestDouble, .float x :: rest =>
    maximum greatest (greatestDouble.greatest x) rest
  | _, _, _ :: _ => .error .wrongKind

def onNumber (argument : Datum) (f : Double → Double) : Except Fault Datum :=
  match argument.number? with
  | some x => .ok (.float (f x))
  | none => .error .wrongKind

def onContent (argument : Datum) (f : String → String) : Except Fault Datum :=
  match argument with
  | .text content => .ok (.text (f content))
  | _ => .error .wrongKind

def applyGeneral (name : String) (argument : Datum) : Except Fault Datum :=
  match name with
  | "min" =>
    match argument with
    | .tuple items => minimum greatestInt (Floating.infinity .double false) items
    | _ => .error .wrongKind
  | "max" =>
    match argument with
    | .tuple items => maximum leastInt (Floating.infinity .double true) items
    | _ => .error .wrongKind
  | "if" =>
    match argument with
    | .tuple [.bool condition, whenTrue, whenFalse] =>
      .ok (if condition then whenTrue else whenFalse)
    | _ => .error .wrongKind
  | "floor" => onNumber argument Floating.floor
  | "ceil" => onNumber argument Floating.ceiling
  | "round" => onNumber argument Floating.round
  | "typeof" => .ok (.text argument.kind.name)
  | "str::to_lowercase" => onContent argument Text.lower
  | "str::to_uppercase" => onContent argument Text.upper
  | "str::trim" => onContent argument Text.trim
  | _ => .error (.unknownFunction name)

/-- Row functions come before general ones. -/
def applyFunction (name : String) (argument : Datum) : Except Fault Datum :=
  match RowFunction.ofName? name with
  | some function => function.apply argument
  | none => applyGeneral name argument

end Unflatten.Condition
