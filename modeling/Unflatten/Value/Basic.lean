import Unflatten.Calendar.Time
import Unflatten.Entries
import Unflatten.Guid
import Unflatten.Number.Decimal
import Unflatten.Number.Shortest
import Unflatten.ScalarType

/-!
# Values

A value is a cell of a row or a tree built from cells: sequences, maps and objects, whose entries
stand in the order of their names. The numeric views read a value as an integer, a floating point
number or a decimal where it has such a reading.
-/

set_option autoImplicit false

namespace Unflatten

inductive SequenceForm where
  | list
  | array
  | tuple
  deriving DecidableEq, Repr

/-- A member of an enumeration; a number that no member is declared for has no name. -/
structure EnumMember where
  typeName : String
  name : Option String
  value : FixedInt .int64
  deriving DecidableEq

inductive Value where
  | null
  | bool (b : Bool)
  | int (kind : IntKind) (n : FixedInt kind)
  | float32 (x : Single)
  | float64 (x : Double)
  | decimal (d : Decimal)
  | string (text : String)
  | guid (g : Guid)
  | date (d : Date)
  | dateTime (moment : DateTime)
  | time (t : Time)
  | binary (bytes : List UInt8)
  | enum (member : EnumMember)
  | sequence (form : SequenceForm) (items : List Value)
  | map (entries : List (String × Value))
  | object (typeName : String) (fields : List (String × Value))

instance : Inhabited Value := ⟨.null⟩

structure Object where
  typeName : String
  fields : Entries Value

namespace Object

def toValue (object : Object) : Value :=
  .object object.typeName object.fields

def empty (typeName : String) : Object :=
  ⟨typeName, []⟩

def set (object : Object) (name : String) (value : Value) : Object :=
  { object with fields := object.fields.insert name value }

def get? (object : Object) (name : String) : Option Value :=
  object.fields.get? name

/-- The field of exactly this name, else the first whose name differs in ASCII case only. -/
def getIgnoringCase? (object : Object) (name : String) : Option Value :=
  match object.fields.get? name with
  | some value => some value
  | none =>
    (List.find? (fun field => Text.equalIgnoringCase field.1 name) object.fields).map Prod.snd

end Object

namespace Value

def list (items : List Value) : Value :=
  .sequence .list items

def array (items : List Value) : Value :=
  .sequence .array items

def tuple (items : List Value) : Value :=
  .sequence .tuple items

def isNull : Value → Bool
  | null => true
  | _ => false

def scalarType? : Value → Option ScalarType
  | bool _ => some .bool
  | int kind _ => some (.int kind)
  | float32 _ => some .float32
  | float64 _ => some .float64
  | decimal _ => some .decimal
  | string _ => some .string
  | guid _ => some .guid
  | date _ => some .date
  | dateTime _ => some .dateTime
  | time _ => some .time
  | binary _ => some .binary
  | null | enum _ | sequence _ _ | map _ | object _ _ => none

/-! ## Display -/

/-- Whole numbers below `10 ^ 15` are written without a point or a sign of zero. -/
def doubleText (x : Double) : String :=
  match x.view with
  | .finite negative significand exponent =>
    let whole := Floating.truncated negative significand exponent
    if x.isIntegral && whole.natAbs < tenTo 15 then Digits.intText whole else x.plainText
  | _ => x.plainText

def enumText (member : EnumMember) : String :=
  member.name.getD member.value.text

mutual

def display : Value → String
  | null => ""
  | bool b => if b then "true" else "false"
  | int _ n => n.text
  | float32 x => doubleText (x.convert .double)
  | float64 x => doubleText x
  | decimal d => d.normalize.text
  | string text => text
  | guid g => g.text
  | date d => d.text
  | dateTime moment => moment.text
  | time t => t.text
  | binary bytes => String.ofList (Hex.encode bytes)
  | enum member => enumText member
  | sequence _ items => "[" ++ Text.join ", " (displayItems items) ++ "]"
  | map entries => "\x7b" ++ Text.join ", " (displayEntries entries) ++ "\x7d"
  | object typeName fields =>
    typeName ++ " \x7b" ++ Text.join ", " (displayEntries fields) ++ "\x7d"

def displayItems : List Value → List String
  | [] => []
  | item :: rest => display item :: displayItems rest

def displayEntries : List (String × Value) → List String
  | [] => []
  | (key, value) :: rest => (key ++ ": " ++ display value) :: displayEntries rest

end

/-! ## Numeric views -/

def leastInt128 : Int := -(twoTo 127)

def greatestInt128 : Int := twoTo 127 - 1

/-- The integral part of a number, toward zero, within a range of one hundred and twenty-eight
bits. -/
def asInt? : Value → Option Int
  | bool b => some (if b then 1 else 0)
  | int _ n => some n.val
  | float32 x => some (x.toIntWithin leastInt128 greatestInt128)
  | float64 x => some (x.toIntWithin leastInt128 greatestInt128)
  | decimal d => some d.truncate
  | enum member => some member.value.val
  | _ => none

def asDouble? : Value → Option Double
  | float32 x => some (x.convert .double)
  | float64 x => some x
  | decimal d => some (d.toFloating .double)
  | value => value.asInt?.map (Floating.ofInt .double)

def asDecimal? : Value → Option Decimal
  | decimal d => some d
  | float32 x => Decimal.ofFloating? x
  | float64 x => Decimal.ofFloating? x
  | value => value.asInt?.bind Decimal.ofInt?

def asString? : Value → Option String
  | string text => some text
  | _ => none

def items? : Value → Option (List Value)
  | sequence _ items => some items
  | _ => none

mutual

/-- Leaves of the tree. A null is a leaf. -/
def leafCount : Value → Nat
  | sequence _ items => leafCountItems items
  | map entries => leafCountEntries entries
  | object _ fields => leafCountEntries fields
  | _ => 1

def leafCountItems : List Value → Nat
  | [] => 0
  | item :: rest => leafCount item + leafCountItems rest

def leafCountEntries : List (String × Value) → Nat
  | [] => 0
  | (_, value) :: rest => leafCount value + leafCountEntries rest

end

end Value

namespace ScalarType

def defaultValue : ScalarType → Value
  | bool => .bool false
  | int kind => .int kind (FixedInt.zero kind)
  | float32 => .float32 (Floating.zero .single)
  | float64 => .float64 (Floating.zero .double)
  | decimal => .decimal Decimal.zero
  | guid => .guid Guid.zero
  | date => .date Date.epoch
  | dateTime => .dateTime ⟨Date.epoch, Time.midnight⟩
  | time => .time Time.midnight
  | string | binary | object => .null

end ScalarType

end Unflatten
