import Unflatten.CellText
import Unflatten.Target.Basic

/-!
# Conversion of cells

A rule converts the values of a column to a leaf. Of the rules that apply to the leaf and the type
of the column the first one is chosen: rules of the caller's own, then the standard ones, the last
of which applies always and gives the default of the leaf. `cast` changes between number types,
`convert` between text, numbers, truth values and moments.
-/

set_option autoImplicit false

namespace Unflatten

inductive ConversionFault where
  | notNumeric (value : Value)
  | notDecimal (value : Value)
  | notIntegral (value : Value)
  | notNumericType (type : ScalarType)
  | noConversion (value : Value) (type : ScalarType)
  | notMember (text type : String)
  | notGuid (value : Value)
  | notPrimitive (target : String)
  | notEnumeration (target : String)
  | unreadable (error : ReadError)
  | refused (rule : String) (value : Value)

def ConversionFault.message : ConversionFault → String
  | notNumeric value => "'" ++ value.display ++ "' is not numeric"
  | notDecimal value => "'" ++ value.display ++ "' cannot be represented as decimal"
  | notIntegral value => "'" ++ value.display ++ "' is not an integral value"
  | notNumericType type => type.name ++ " is not a numeric type"
  | noConversion value type => "cannot convert '" ++ value.display ++ "' to " ++ type.name
  | notMember text type => "'" ++ text ++ "' is not a member of " ++ type
  | notGuid value => "'" ++ value.display ++ "' is not a GUID string"
  | notPrimitive target => "target " ++ target ++ " is not a primitive type"
  | notEnumeration target => "target " ++ target ++ " is not an enum"
  | unreadable error => error.message
  | refused rule value => "rule " ++ rule ++ " refuses '" ++ value.display ++ "'"

namespace Value

/-- Truth values and text have no place among the numbers. -/
def isCastable : Value → Bool
  | bool _ => false
  | string _ => false
  | _ => true

def castDouble (value : Value) : Except ConversionFault Double :=
  match value.isCastable, value.asDouble? with
  | true, some x => .ok x
  | _, _ => .error (.notNumeric value)

def castInt (value : Value) : Except ConversionFault Int :=
  match value.isCastable, value.asInt? with
  | true, some n => .ok n
  | _, _ => .error (.notNumeric value)

/-- Integers wrap around, fractions are cut off. -/
def cast (value : Value) (type : ScalarType) : Except ConversionFault Value :=
  match type with
  | .float32 => value.castDouble.map fun x => float32 (x.convert .single)
  | .float64 => value.castDouble.map float64
  | .decimal =>
    match value.asDecimal? with
    | some d => .ok (decimal d)
    | none => .error (.notDecimal value)
  | .int kind => value.castInt.map fun n => int kind (FixedInt.wrapping kind n)
  | other =>
    match value.castInt with
    | .ok _ => .error (.notNumericType other)
    | .error fault => .error fault

def truth? : Value → Option Bool
  | float32 x => some !x.isZero
  | float64 x => some !x.isZero
  | decimal d => some !d.isZero
  | other => other.asInt?.map (· ≠ 0)

def convertTruth (value : Value) : Except ConversionFault Value :=
  match value.truth? with
  | some b => .ok (bool b)
  | none => .error (.notNumeric value)

def holdsNumber (value : Value) : Bool :=
  match value.scalarType? with
  | some type => type.isNumeric
  | none => false

/-- Conversions to any type but that of the value itself and text. -/
def convertOther (value : Value) (type : ScalarType) : Except ConversionFault Value :=
  match value, type with
  | null, _ => .ok null
  | string text, type =>
    match readCell type (Text.trim text) with
    | .ok cell => .ok (cell.getD null)
    | .error error => .error (.unreadable error)
  | date d, .dateTime => .ok (dateTime ⟨d, Time.midnight⟩)
  | dateTime moment, .date => .ok (date moment.date)
  | dateTime moment, .time => .ok (time moment.time)
  | bool b, type =>
    if type.isNumeric then cast (int .int64 (FixedInt.wrapping .int64 (if b then 1 else 0))) type
    else .error (.noConversion value type)
  | value, type =>
    if value.holdsNumber && type == .bool then value.convertTruth
    else if value.holdsNumber && type.isNumeric then value.cast type
    else .error (.noConversion value type)

/-- Empty text becomes null, and null stays null. -/
def convert (value : Value) (type : ScalarType) : Except ConversionFault Value :=
  if value.scalarType? == some type then .ok value
  else if value.isNull then .ok null
  else if type == .string then .ok (string value.display)
  else value.convertOther type

end Value

/-! ## Rules -/

structure ConversionRule where
  name : String
  applies : Leaf → ScalarType → Bool
  convert : Leaf → ScalarType → Value → Except ConversionFault Value
  /-- Without it the null value never reaches the rule and becomes the default of the leaf. -/
  takesNull : Bool := false

/-- A rule of the caller's own; two rules are the same if their identities are. -/
structure CustomRule extends ConversionRule where
  ident : Nat

namespace ConversionRule

def sameType : ConversionRule where
  name := "same-type"
  applies leaf source := leaf.scalarType? == some source
  takesNull := true
  convert leaf _ value :=
    if value.isNull then .ok leaf.defaultValue
    else
      match leaf.scalarType? with
      | some type => value.convert type
      | none => .ok value

def numericToNumeric : ConversionRule where
  name := "numeric-to-numeric"
  applies leaf source := source.isNumeric && (leaf.scalarType?.map ScalarType.isNumeric).getD false
  convert leaf _ value :=
    match leaf.scalarType? with
    | none => .error (.notPrimitive leaf.describe)
    | some type =>
      match value.cast type with
      | .ok number => .ok number
      | .error _ => value.convert type

def numericToBool : ConversionRule where
  name := "numeric-to-bool"
  applies leaf source := source.isNumeric && leaf.scalarType? == some .bool
  convert _ _ value := value.convertTruth

def convertible : ConversionRule where
  name := "convertible"
  applies leaf source :=
    source.isConvertible && (leaf.scalarType?.map ScalarType.isConvertible).getD false
  convert leaf _ value :=
    match leaf.scalarType? with
    | none => .error (.notPrimitive leaf.describe)
    | some type =>
      match value.convert type with
      | .ok converted => .ok (if converted.isNull then leaf.defaultValue else converted)
      | .error fault => .error fault

/-- Text names a member or writes its number. -/
def enumMember (type : EnumType) (value : Value) : Except ConversionFault Value :=
  match value with
  | .string text =>
    match type.memberNamed? text with
    | some member => .ok (.enum member)
    | none =>
      match FixedInt.read .int64 (Text.trimChars text.toList) with
      | .ok number => .ok (.enum (type.memberOf number))
      | .error _ => .error (.notMember text type.name)
  | other =>
    match other.asInt? with
    | some number => .ok (.enum (type.memberOf (FixedInt.wrapping .int64 number)))
    | none => .error (.notIntegral other)

def enumeration : ConversionRule where
  name := "enum"
  applies leaf source := leaf.enumType?.isSome && (source == .string || source.isIntegral)
  convert leaf _ value :=
    match leaf.enumType? with
    | some type => enumMember type value
    | none => .error (.notEnumeration leaf.describe)

def stringToGuid : ConversionRule where
  name := "string-to-guid"
  applies leaf source := source == .string && leaf.scalarType? == some .guid
  convert leaf _ value :=
    match value with
    | .string text =>
      if (Text.trimChars text.toList).isEmpty then .ok leaf.defaultValue
      else
        match readCell .guid text with
        | .ok cell => .ok (cell.getD leaf.defaultValue)
        | .error error => .error (.unreadable error)
    | .guid g => .ok (.guid g)
    | other => .error (.notGuid other)

def toText : ConversionRule where
  name := "to-string"
  applies leaf _ := leaf.scalarType? == some .string
  takesNull := true
  convert _ _ value := .ok (if value.isNull then .null else .string value.display)

def objectPassthrough : ConversionRule where
  name := "object-passthrough"
  applies leaf _ := leaf.isAny
  takesNull := true
  convert _ _ value := .ok value

def default : ConversionRule where
  name := "default"
  applies _ _ := true
  convert leaf _ _ := .ok leaf.defaultValue

def standard : List ConversionRule :=
  [sameType, numericToNumeric, numericToBool, convertible, enumeration, stringToGuid, toText,
    objectPassthrough, default]

def inOrder (custom : List CustomRule) : List ConversionRule :=
  custom.map CustomRule.toConversionRule ++ standard

end ConversionRule

structure Conversion where
  rule : ConversionRule
  leaf : Leaf
  source : ScalarType

namespace Conversion

def select (rules : List ConversionRule) (leaf : Leaf) (source : ScalarType) : Conversion :=
  let rule := (rules.find? fun rule => rule.applies leaf source).getD ConversionRule.default
  ⟨rule, leaf, source⟩

def apply (conversion : Conversion) (value : Value) : Except ConversionFault Value :=
  if value.isNull && !conversion.rule.takesNull then .ok conversion.leaf.defaultValue
  else conversion.rule.convert conversion.leaf conversion.source value

def describe (conversion : Conversion) : String :=
  conversion.rule.name ++ " (" ++ conversion.source.name ++ " -> " ++ conversion.leaf.describe ++ ")"

end Conversion

end Unflatten
