import Unflatten.Condition.Function
import Unflatten.Condition.Node
import Unflatten.Failure
import Unflatten.Row

/-!
# Conditions on rows

A condition is an expression over the cells of a row. Columns go by their names, in lower case and
with underscores for all but letters and digits, and by their places `c0`, `c1`, …. A condition
that cannot be evaluated does not accept the row.
-/

set_option autoImplicit false

namespace Unflatten

namespace Condition

/-! ## Names -/

abbrev Names := List (String × Datum)

/-- A name keeps the kind of data that it was first given. -/
def bindName (name : String) (datum : Datum) : Names → Except Fault Names
  | [] => .ok [(name, datum)]
  | (here, old) :: rest =>
    if here = name then
      if old.kind = datum.kind then .ok ((here, datum) :: rest) else .error .conflictingNames
    else
      match bindName name datum rest with
      | .ok longer => .ok ((here, old) :: longer)
      | .error fault => .error fault

def nameChar (c : Char) : Char :=
  if c.isAlphanum || c = '_' then c.toLower else '_'

def columnIdentifier (name : String) : String :=
  String.ofList (name.toList.map nameChar)

def placeIdentifier (index : Nat) : String :=
  "c" ++ Digits.text index

/-- Binds the columns from the place `index` on. Of columns with one name the first keeps it. -/
def bindColumns (row : Row) (taken : List String) (names : Names) (index : Nat) :
    List Column → Except Fault Names
  | [] => .ok names
  | column :: rest =>
    let datum := Datum.ofValue (row.value index)
    let name := columnIdentifier column.name
    let isTaken := name.isEmpty || taken.contains name
    let named := if isTaken then .ok names else bindName name datum names
    match named.bind (bindName (placeIdentifier index) datum) with
    | .ok names =>
      bindColumns row (if isTaken then taken else name :: taken) names (index + 1) rest
    | .error fault => .error fault

def namesOf (row : Row) : Except Fault Names :=
  bindColumns row [] [] 0 row.columns

/-! ## Evaluation -/

def checked (n : Int) : Except Fault Datum :=
  match FixedInt.ofInt? .int64 n with
  | some n => .ok (.int n)
  | none => .error .arithmetic

/-- Integers stay integers, mixed operands become doubles. -/
def numeric (onInts : Int → Int → Except Fault Datum) (onDoubles : Double → Double → Double)
    (left right : Datum) : Except Fault Datum :=
  match left, right with
  | .int a, .int b => onInts a.val b.val
  | left, right =>
    match left.number?, right.number? with
    | some a, some b => .ok (.float (onDoubles a b))
    | _, _ => .error .wrongKind

def quotient (f : Int → Int → Int) (a b : Int) : Except Fault Datum :=
  if b = 0 then .error .arithmetic else checked (f a b)

/-- The remainder of the least integer by minus one is refused like their quotient. -/
def remainder (a b : Int) : Except Fault Datum :=
  match quotient Int.tdiv a b with
  | .ok _ => checked (a.tmod b)
  | .error fault => .error fault

/-- Two texts or two numbers are ordered. -/
def ordered (onTexts : String → String → Bool) (onInts : Int → Int → Bool)
    (onDoubles : Double → Double → Bool) (left right : Datum) : Except Fault Datum :=
  match left, right with
  | .text a, .text b => .ok (.bool (onTexts a b))
  | .int a, .int b => .ok (.bool (onInts a.val b.val))
  | left, right =>
    match left.number?, right.number? with
    | some a, some b => .ok (.bool (onDoubles a b))
    | _, _ => .error .wrongKind

def logical (f : Bool → Bool → Bool) (left right : Datum) : Except Fault Datum :=
  match left, right with
  | .bool a, .bool b => .ok (.bool (f a b))
  | _, _ => .error .wrongKind

def applyBinary (op : BinaryOperator) (left right : Datum) : Except Fault Datum :=
  match op with
  | .add =>
    match left, right with
    | .text a, .text b => .ok (.text (a ++ b))
    | left, right => numeric (fun a b => checked (a + b)) Floating.add left right
  | .subtract => numeric (fun a b => checked (a - b)) Floating.subtract left right
  | .multiply => numeric (fun a b => checked (a * b)) Floating.multiply left right
  | .divide => numeric (quotient Int.tdiv) Floating.divide left right
  | .remainder => numeric remainder Floating.remainder left right
  | .power =>
    match left.number?, right.number? with
    | some a, some b => .ok (.float (doublePower a b))
    | _, _ => .error .wrongKind
  | .equal => .ok (.bool (left.equals right))
  | .different => .ok (.bool (!left.equals right))
  | .less => ordered (fun a b => a < b) (fun a b => a < b) Floating.less left right
  | .greater =>
    ordered (fun a b => b < a) (fun a b => b < a) (fun a b => b.less a) left right
  | .lessOrEqual =>
    ordered (fun a b => !(b < a)) (fun a b => a ≤ b) (fun a b => a.less b || a.same b) left right
  | .greaterOrEqual =>
    ordered (fun a b => !(a < b)) (fun a b => b ≤ a) (fun a b => b.less a || a.same b) left right
  | .and => logical (· && ·) left right
  | .or => logical (· || ·) left right

def applyOne (op : Operator) (argument : Datum) : Except Fault Datum :=
  match op with
  | .group => .ok argument
  | .call function => applyFunction function argument
  | .negate =>
    match argument with
    | .int n => checked (-n.val)
    | .float x => .ok (.float x.negate)
    | _ => .error .wrongKind
  | .not =>
    match argument with
    | .bool b => .ok (.bool !b)
    | _ => .error .wrongKind
  | .binary _ => .error .operandCount
  | .assign _ => .error .assignment

def applyTwo (op : Operator) (left right : Datum) : Except Fault Datum :=
  match op with
  | .binary op => applyBinary op left right
  | .assign _ => .error .assignment
  | _ => .error .operandCount

def lookUp (names : Names) (name : String) : Except Fault Datum :=
  match names.lookup name with
  | some datum => .ok datum
  | none => .error (.unknownVariable name)

mutual

/-- All operands are evaluated, from left to right, before their operator. -/
def evaluate (names : Names) : Node → Except Fault Datum
  | .constant datum => .ok datum
  | .variable name => lookUp names name
  | .assigned name => .ok (.text name)
  | .bare op => if op = .group then .ok .empty else .error .operandCount
  | .one op first =>
    match evaluate names first with
    | .ok argument => applyOne op argument
    | .error fault => .error fault
  | .two op first second =>
    match evaluate names first with
    | .error fault => .error fault
    | .ok left =>
      match evaluate names second with
      | .error fault => .error fault
      | .ok right => applyTwo op left right
  | .tuple items => (evaluateAll names items).map .tuple
  | .chain items => (evaluateAll names items).map fun data => data.getLast?.getD .empty

def evaluateAll (names : Names) : List Node → Except Fault (List Datum)
  | [] => .ok []
  | item :: rest =>
    match evaluate names item with
    | .error fault => .error fault
    | .ok datum => (evaluateAll names rest).map (datum :: ·)

end

end Condition

structure Condition where
  text : String

namespace Condition

def ofText (text : String) : Except Failure Condition :=
  if (Text.trimChars text.toList).isEmpty then .error (.blankCondition text) else .ok ⟨text⟩

def holds (condition : Condition) (row : Row) : Except Fault Bool :=
  match namesOf row with
  | .error fault => .error fault
  | .ok names =>
    match tree? condition.text with
    | none => .error .malformed
    | some node => (evaluate names node).map Datum.isTruthy

def accepts (condition : Condition) (row : Row) : Bool :=
  match condition.holds row with
  | .ok truth => truth
  | .error _ => false

end Condition

end Unflatten
