import Unflatten.Value.Basic

/-!
# Values as JSON

`Value.json` gives the JSON document of a value: identifiers, moments and decimals are strings,
bytes are an array of numbers, numbers that are not finite are null, objects lose their type name.
Documents are written on one line or with two blanks of indentation a level, and
checked against the plain types of a host program.
-/

set_option autoImplicit false

namespace Unflatten

inductive Json where
  | null
  | bool (b : Bool)
  | integer (n : Int)
  | single (x : Single)
  | double (x : Double)
  | string (text : String)
  | array (items : List Json)
  | object (members : List (String × Json))

mutual

def Value.json : Value → Json
  | .null => .null
  | .bool b => .bool b
  | .int _ n => .integer n.val
  | .float32 x => if x.isFinite then .single x else .null
  | .float64 x => if x.isFinite then .double x else .null
  | .decimal d => .string d.text
  | .string text => .string text
  | .guid g => .string g.text
  | .date d => .string d.text
  | .dateTime moment => .string moment.exactText
  | .time t => .string t.exactText
  | .binary bytes => .array (bytes.map fun byte => .integer byte.toNat)
  | .enum member =>
    match member.name with
    | some name => .string name
    | none => .integer member.value.val
  | .sequence _ items => .array (Value.jsonItems items)
  | .map entries => .object (Value.jsonEntries entries)
  | .object _ fields => .object (Value.jsonEntries fields)

def Value.jsonItems : List Value → List Json
  | [] => []
  | item :: rest => Value.json item :: Value.jsonItems rest

def Value.jsonEntries : List (String × Value) → List (String × Json)
  | [] => []
  | (key, value) :: rest => (key, Value.json value) :: Value.jsonEntries rest

end

namespace Json

/-! ## Writing -/

/-- Quotes, backslashes and control characters are escaped, the rest stays as it is. -/
def escaped (c : Char) : List Char :=
  if c = '"' then ['\\', '"']
  else if c = '\\' then ['\\', '\\']
  else if c = '\n' then ['\\', 'n']
  else if c = '\r' then ['\\', 'r']
  else if c = '\t' then ['\\', 't']
  else if c = '\x08' then ['\\', 'b']
  else if c = '\x0c' then ['\\', 'f']
  else if c.toNat < 0x20 then
    ['\\', 'u', '0', '0', Digits.hexDigit (c.toNat / 16), Digits.hexDigit (c.toNat % 16)]
  else [c]

def quoted (text : String) : String :=
  String.ofList ('"' :: text.toList.flatMap escaped ++ ['"'])

/-- Doubles are written with a point from `10 ^ -5` up to `10 ^ 16`. -/
def doubleLayout : Floating.JsonLayout := ⟨-5, 16⟩

/-- Singles are written with a point from `10 ^ -6` up to `10 ^ 13`. -/
def singleLayout : Floating.JsonLayout := ⟨-6, 13⟩

def scalarText : Json → String
  | null => "null"
  | bool b => if b then "true" else "false"
  | integer n => Digits.intText n
  | single x => (x.jsonText? singleLayout).getD "null"
  | double x => (x.jsonText? doubleLayout).getD "null"
  | string text => quoted text
  | array _ => ""
  | object _ => ""

mutual

def compact : Json → String
  | array items => "[" ++ Text.join "," (compactItems items) ++ "]"
  | object members => "\x7b" ++ Text.join "," (compactMembers members) ++ "\x7d"
  | scalar => scalarText scalar

def compactItems : List Json → List String
  | [] => []
  | item :: rest => compact item :: compactItems rest

def compactMembers : List (String × Json) → List String
  | [] => []
  | (key, value) :: rest => (quoted key ++ ":" ++ compact value) :: compactMembers rest

end

def block (depth : Nat) (opening closing : String) (lines : List String) : String :=
  if lines.isEmpty then opening ++ closing
  else
    let indent := "\n" ++ Text.repeated (2 * (depth + 1)) ' '
    opening ++ indent ++ Text.join ("," ++ indent) lines ++ "\n" ++ Text.repeated (2 * depth) ' '
      ++ closing

mutual

def indented (depth : Nat) : Json → String
  | array items => block depth "[" "]" (indentedItems (depth + 1) items)
  | object members => block depth "\x7b" "\x7d" (indentedMembers (depth + 1) members)
  | scalar => scalarText scalar

def indentedItems (depth : Nat) : List Json → List String
  | [] => []
  | item :: rest => indented depth item :: indentedItems depth rest

def indentedMembers (depth : Nat) : List (String × Json) → List String
  | [] => []
  | (key, value) :: rest =>
    (quoted key ++ ": " ++ indented depth value) :: indentedMembers depth rest

end

def pretty (document : Json) : String :=
  indented 0 document

/-! ## Host types -/

/-- Plain types that a document may be asked to be. -/
inductive HostType where
  | bool
  | integer (kind : IntKind)
  | string
  | unit
  | option (inner : HostType)
  | list (item : HostType)
  | dictionary (value : HostType)
  | pair (first second : HostType)
  deriving DecidableEq, Repr

def fits : HostType → Json → Bool
  | .bool, bool _ => true
  | .integer kind, integer n => kind.least ≤ n && n ≤ kind.greatest
  | .string, string _ => true
  | .unit, null => true
  | .option _, null => true
  | .option inner, document => fits inner document
  | .list item, array items => items.all (fits item)
  | .dictionary value, object members => members.all fun member => fits value member.2
  | .pair first second, array [left, right] => fits first left && fits second right
  | _, _ => false

end Json

end Unflatten
