import Unflatten.Number.Arithmetic
import Unflatten.Text.Quoted
import Unflatten.Value.Basic

/-!
# Data of conditions

Conditions know fewer kinds of data than rows: numbers are integers of sixty-four bits or doubles,
and all that has no counterpart is text.
-/

set_option autoImplicit false

namespace Unflatten

inductive Datum where
  | empty
  | bool (b : Bool)
  | int (n : FixedInt .int64)
  | float (x : Double)
  | text (content : String)
  | tuple (items : List Datum)

instance : Inhabited Datum := ⟨.empty⟩

namespace Datum

inductive Kind where
  | empty
  | bool
  | int
  | float
  | text
  | tuple
  deriving DecidableEq, Repr

def Kind.name : Kind → String
  | empty => "empty"
  | bool => "boolean"
  | int => "int"
  | float => "float"
  | text => "string"
  | tuple => "tuple"

def kind : Datum → Kind
  | empty => .empty
  | bool _ => .bool
  | int _ => .int
  | float _ => .float
  | text _ => .text
  | tuple _ => .tuple

/-- An integer without room among the sixty-four bits becomes a double. -/
def ofInteger (n : Int) : Datum :=
  match FixedInt.ofInt? .int64 n with
  | some n => int n
  | none => float (Floating.ofInt .double n)

mutual

def ofValue : Value → Datum
  | .null => empty
  | .bool b => bool b
  | .int _ n => ofInteger n.val
  | .float32 x => float (x.convert .double)
  | .float64 x => float x
  | .decimal d => float (d.toFloating .double)
  | .enum member =>
    match member.name with
    | some name => text name
    | none => int member.value
  | .sequence _ items => tuple (ofValues items)
  | other => text other.display

def ofValues : List Value → List Datum
  | [] => []
  | item :: rest => ofValue item :: ofValues rest

end

mutual

/-- Whether a datum counts as true: a number other than zero, text, a tuple with such a member. -/
def isTruthy : Datum → Bool
  | empty => false
  | bool b => b
  | int n => n.val != 0
  | float x => !x.isZero
  | text content => !content.isEmpty
  | tuple items => anyTruthy items

def anyTruthy : List Datum → Bool
  | [] => false
  | item :: rest => isTruthy item || anyTruthy rest

end

mutual

def equals : Datum → Datum → Bool
  | empty, empty => true
  | bool a, bool b => a == b
  | int a, int b => a.val == b.val
  | float a, float b => a.same b
  | text a, text b => a == b
  | tuple a, tuple b => allEqual a b
  | _, _ => false

def allEqual : List Datum → List Datum → Bool
  | [], [] => true
  | a :: as, b :: bs => equals a b && allEqual as bs
  | _, _ => false

end

mutual

def describe : Datum → String
  | empty => "Empty"
  | bool b => if b then "Boolean(true)" else "Boolean(false)"
  | int n => "Int(" ++ n.text ++ ")"
  | float x => "Float(" ++ x.debugText ++ ")"
  | text content => "String(" ++ Text.quoted content ++ ")"
  | tuple items => "Tuple([" ++ Text.join ", " (describeAll items) ++ "])"

def describeAll : List Datum → List String
  | [] => []
  | item :: rest => describe item :: describeAll rest

end

def number? : Datum → Option Double
  | int n => some (Floating.ofInt .double n.val)
  | float x => some x
  | _ => none

end Datum

end Unflatten
