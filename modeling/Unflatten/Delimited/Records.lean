import Unflatten.Text.Basic

/-!
# Records of delimited text

Fields stand between delimiters and records between line ends. A field that starts with a double
quote goes on to the next lone one, with doubled quotes for quotes; what follows up to the delimiter
belongs to it too. Empty lines are no records, and a byte order mark at the start is left out.
-/

set_option autoImplicit false

namespace Unflatten.Delimited

inductive State where
  | recordStart
  | fieldStart
  | bare
  | quoted
  | afterQuote
  deriving DecidableEq, Repr

/-- Where the reader is, the current field backwards and the fields before it backwards. -/
structure Reading where
  state : State
  field : List Char
  fields : List String

def isLineEnd (c : Char) : Bool :=
  c = '\n' || c = '\r'

namespace Reading

def start : Reading := ⟨.recordStart, [], []⟩

def closeField (reading : Reading) : List String :=
  String.ofList reading.field.reverse :: reading.fields

def record (reading : Reading) : List String :=
  reading.closeField.reverse

def withChar (reading : Reading) (state : State) (c : Char) : Reading :=
  { reading with state, field := c :: reading.field }

/-- Outside of quotes: the record that ends here, if one does, and how to go on. -/
def stepBare (delimiter : Char) (reading : Reading) (c : Char) : Option (List String) × Reading :=
  if c = delimiter then (none, ⟨.fieldStart, [], reading.closeField⟩)
  else if isLineEnd c then (some reading.record, start)
  else (none, reading.withChar .bare c)

def step (delimiter : Char) (reading : Reading) (c : Char) : Option (List String) × Reading :=
  match reading.state with
  | .recordStart =>
    if isLineEnd c then (none, reading)
    else if c = '"' then (none, { reading with state := .quoted })
    else reading.stepBare delimiter c
  | .fieldStart =>
    if c = '"' then (none, { reading with state := .quoted }) else reading.stepBare delimiter c
  | .bare => reading.stepBare delimiter c
  | .quoted =>
    if c = '"' then (none, { reading with state := .afterQuote })
    else (none, reading.withChar .quoted c)
  | .afterQuote =>
    if c = '"' then (none, reading.withChar .quoted c) else reading.stepBare delimiter c

def finish (reading : Reading) : List (List String) :=
  if reading.state = .recordStart then [] else [reading.record]

end Reading

def recordsFrom (delimiter : Char) (reading : Reading) : List Char → List (List String)
  | [] => reading.finish
  | c :: rest =>
    match reading.step delimiter c with
    | (some record, next) => record :: recordsFrom delimiter next rest
    | (none, next) => recordsFrom delimiter next rest

def byteOrderMark : Char := '\ufeff'

def records (delimiter : Char) (text : String) : List (List String) :=
  let chars :=
    match text.toList with
    | c :: rest => if c = byteOrderMark then rest else c :: rest
    | [] => []
  recordsFrom delimiter Reading.start chars

end Unflatten.Delimited
