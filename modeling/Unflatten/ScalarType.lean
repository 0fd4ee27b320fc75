import Unflatten.Number.FixedInt
import Unflatten.Text.Case

/-!
# Types of columns

What a column declares to hold. A type is read from its own name or from one of the names that
databases use for it.
-/

set_option autoImplicit false

namespace Unflatten

inductive ScalarType where
  | bool
  | int (kind : IntKind)
  | float32
  | float64
  | decimal
  | string
  | guid
  | date
  | dateTime
  | time
  | binary
  | object
  deriving DecidableEq, Repr

def IntKind.name : IntKind → String
  | int8 => "int8"
  | int16 => "int16"
  | int32 => "int32"
  | int64 => "int64"
  | uint8 => "uint8"
  | uint16 => "uint16"
  | uint32 => "uint32"
  | uint64 => "uint64"

namespace ScalarType

def name : ScalarType → String
  | bool => "bool"
  | int kind => kind.name
  | float32 => "float32"
  | float64 => "float64"
  | decimal => "decimal"
  | string => "string"
  | guid => "guid"
  | date => "date"
  | dateTime => "datetime"
  | time => "time"
  | binary => "binary"
  | object => "object"

def all : List ScalarType :=
  [bool, int .int8, int .int16, int .int32, int .int64, int .uint8, int .uint16, int .uint32,
    int .uint64, float32, float64, decimal, string, guid, date, dateTime, time, binary, object]

theorem mem_all (type : ScalarType) : type ∈ all := by
  cases type with
  | int kind => cases kind <;> decide
  | _ => decide

def isIntegral : ScalarType → Bool
  | int _ => true
  | _ => false

def isNumeric : ScalarType → Bool
  | int _ | float32 | float64 | decimal => true
  | _ => false

def isConvertible : ScalarType → Bool
  | bool | string | date | dateTime | time => true
  | type => type.isNumeric

/-- Whether a missing cell of the type has a value to stand for it. -/
def hasZero : ScalarType → Bool
  | string | binary | object => false
  | _ => true

def aliases : ScalarType → List String
  | bool => ["boolean", "bit"]
  | int .int8 => ["sbyte", "tinyint"]
  | int .int16 => ["short", "smallint"]
  | int .int32 => ["int", "integer"]
  | int .int64 => ["long", "bigint"]
  | int .uint8 => ["byte"]
  | int .uint16 => ["ushort"]
  | int .uint32 => ["uint"]
  | int .uint64 => ["ulong"]
  | float32 => ["float", "single", "real"]
  | float64 => ["double"]
  | decimal => ["numeric", "money"]
  | string => ["text", "varchar", "nvarchar", "char"]
  | guid => ["uuid", "uniqueidentifier"]
  | date => []
  | dateTime => ["date-time", "timestamp"]
  | time => []
  | binary => ["bytes", "blob", "varbinary"]
  | object => ["variant"]

/-- Blanks around the name and the case of its ASCII letters do not matter. -/
def ofName? (text : String) : Option ScalarType :=
  let wanted := Text.asciiLower (Text.trim text)
  all.find? fun type => type.name == wanted || type.aliases.contains wanted

end ScalarType

end Unflatten
