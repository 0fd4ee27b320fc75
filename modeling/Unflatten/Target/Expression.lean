import Unflatten.Target.Basic

/-!
# Type expressions

Targets are written as expressions such as `list<Order>`, `int32?` or `tuple<int32,string>[]`. The
text is cut into words and marks, and a machine reads them from left to right: it keeps the open
brackets with the arguments read so far, and the mode says what may come next. Offsets count bytes.
-/

set_option autoImplicit false

namespace Unflatten.TypeExpression

inductive Lexeme where
  | word (chars : List Char)
  | mark (c : Char)
  deriving DecidableEq, Repr

def isNameChar (c : Char) : Bool :=
  Text.isWord c || c = '_' || c = '-' || c = '.'

/-- The lexemes with their offsets; `offset` is that of the first character. Blanks separate. -/
def lexemes : Nat → List Char → List (Nat × Lexeme)
  | _, [] => []
  | offset, c :: rest =>
    let later := lexemes (offset + c.utf8Size) rest
    if isNameChar c then
      match later with
      | (start, .word chars) :: others =>
        if start = offset + c.utf8Size then (offset, .word (c :: chars)) :: others
        else (offset, .word [c]) :: later
      | _ => (offset, .word [c]) :: later
    else if Text.isBlank c then later
    else (offset, .mark c) :: later

inductive Fault where
  | trailing (offset : Nat)
  | expectedName (offset : Nat)
  | expectedSeparator (offset : Nat)
  | expectedBracket (offset : Nat)
  | argumentCount (head : String)
  | arity
  | noArguments (name : String)
  | unknownType (name : String)
  deriving DecidableEq, Repr

def Fault.message (text : String) : Fault → String
  | trailing offset =>
    "Unexpected trailing input in type expression '" ++ text ++ "' at offset "
      ++ Digits.text offset
  | expectedName offset =>
    "Expected a type name in '" ++ text ++ "' at offset " ++ Digits.text offset
  | expectedSeparator offset =>
    "Expected ',' or '>' in '" ++ text ++ "' at offset " ++ Digits.text offset
  | expectedBracket offset =>
    "Expected ']' in '" ++ text ++ "' at offset " ++ Digits.text offset
  | argumentCount head => head ++ "<T> takes exactly one type argument"
  | arity => "tuple<...> takes between 1 and " ++ Digits.text greatestArity ++ " type arguments"
  | noArguments name => "Type '" ++ name ++ "' does not take type arguments"
  | unknownType name => "Unknown type '" ++ name ++ "' in '" ++ text ++ "'"

/-- Names that the notation itself gives a meaning to. -/
inductive Keyword where
  | list
  | array
  | map
  | tuple
  | any
  | dynamic
  deriving DecidableEq, Repr

def keyword? (name : String) : Option Keyword :=
  match Text.asciiLower name with
  | "list" => some .list
  | "seq" => some .list
  | "sequence" => some .list
  | "array" => some .array
  | "map" => some .map
  | "dictionary" => some .map
  | "tuple" => some .tuple
  | "any" => some .any
  | "dynamic" => some .dynamic
  | _ => none

def single (head : String) (wrap : Target → Target) : List Target → Except Fault Target
  | [argument] => .ok (wrap argument)
  | _ => .error (.argumentCount head)

/-- The target of a name with its arguments. Names other than the keywords are looked up first and
taken for column types after that. The two keywords for untyped values ignore arguments. -/
def build (lookup : String → Option Target) (name : String) (arguments : List Target) :
    Except Fault Target :=
  match keyword? name with
  | some .list => single "list" .list arguments
  | some .array => single "array" .array arguments
  | some .map => single "map" .map arguments
  | some .tuple =>
    if arguments.isEmpty || greatestArity < arguments.length then .error .arity
    else .ok (.tuple arguments)
  | some .any => .ok .any
  | some .dynamic => .ok .dynamic
  | none =>
    if !arguments.isEmpty then .error (.noArguments name)
    else
      match lookup name with
      | some custom => .ok custom
      | none =>
        match ScalarType.ofName? name with
        | some type => .ok (.scalar type)
        | none => .error (.unknownType name)

inductive Mode where
  | expectName
  | afterName (name : String)
  | afterType (type : Target)
  | inBrackets (type : Target)

/-- An open angle bracket: the name before it and the arguments after it, the last one first. -/
structure Frame where
  name : String
  arguments : List Target

structure State where
  mode : Mode
  frames : List Frame

def stepAfterType (lookup : String → Option Target) (type : Target) (frames : List Frame)
    (offset : Nat) (lexeme : Lexeme) : Except Fault State :=
  match lexeme, frames with
  | .mark '?', _ => .ok ⟨.afterType (.nullable type), frames⟩
  | .mark '[', _ => .ok ⟨.inBrackets type, frames⟩
  | .mark ',', frame :: outer =>
    .ok ⟨.expectName, { frame with arguments := type :: frame.arguments } :: outer⟩
  | .mark '>', frame :: outer =>
    match build lookup frame.name (type :: frame.arguments).reverse with
    | .ok built => .ok ⟨.afterType built, outer⟩
    | .error fault => .error fault
  | _, [] => .error (.trailing offset)
  | _, _ :: _ => .error (.expectedSeparator offset)

def step (lookup : String → Option Target) (state : State) (offset : Nat) (lexeme : Lexeme) :
    Except Fault State :=
  match state.mode with
  | .expectName =>
    match lexeme with
    | .word chars => .ok { state with mode := .afterName (String.ofList chars) }
    | .mark _ => .error (.expectedName offset)
  | .afterName name =>
    if lexeme = .mark '<' then .ok ⟨.expectName, ⟨name, []⟩ :: state.frames⟩
    else
      match build lookup name [] with
      | .ok built => stepAfterType lookup built state.frames offset lexeme
      | .error fault => .error fault
  | .afterType type => stepAfterType lookup type state.frames offset lexeme
  | .inBrackets type =>
    if lexeme = .mark ']' then .ok { state with mode := .afterType (.array type) }
    else .error (.expectedBracket offset)

def finish (lookup : String → Option Target) (state : State) (offset : Nat) :
    Except Fault Target :=
  let complete := fun type : Target =>
    if state.frames.isEmpty then Except.ok type else .error (.expectedSeparator offset)
  match state.mode with
  | .expectName => .error (.expectedName offset)
  | .afterName name =>
    match build lookup name [] with
    | .ok built => complete built
    | .error fault => .error fault
  | .afterType type => complete type
  | .inBrackets _ => .error (.expectedBracket offset)

def run (lookup : String → Option Target) (state : State) (finalOffset : Nat) :
    List (Nat × Lexeme) → Except Fault Target
  | [] => finish lookup state finalOffset
  | (offset, lexeme) :: rest =>
    match step lookup state offset lexeme with
    | .ok next => run lookup next finalOffset rest
    | .error fault => .error fault

def read (lookup : String → Option Target) (text : String) : Except Fault Target :=
  run lookup ⟨.expectName, []⟩ (Text.byteLength text.toList) (lexemes 0 text.toList)

end Unflatten.TypeExpression
