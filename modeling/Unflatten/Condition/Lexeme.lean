import Unflatten.Condition.Datum

/-!
# Lexemes of conditions

The text of a condition is cut into words, quoted texts, blanks and marks. Comments are left out;
they do not separate words. Words that are numbers or truth values become constants, and two marks
may join into one operator.
-/

set_option autoImplicit false

namespace Unflatten.Condition

inductive BinaryOperator where
  | add
  | subtract
  | multiply
  | divide
  | remainder
  | power
  | equal
  | different
  | greater
  | less
  | greaterOrEqual
  | lessOrEqual
  | and
  | or
  deriving DecidableEq, Repr

inductive Lexeme where
  | constant (datum : Datum)
  | word (name : String)
  | minus
  | operator (op : BinaryOperator)
  | not
  | assign (isPlain : Bool)
  | opening
  | closing
  | comma
  | semicolon

namespace Lexeme

/-- Lexemes that a value can start with. A name in front of one is a function. -/
def startsValue : Lexeme → Bool
  | constant _ | word _ | not | opening => true
  | _ => false

/-- Lexemes that a value can end with. A minus behind one subtracts. -/
def endsValue : Lexeme → Bool
  | constant _ | word _ | closing => true
  | _ => false

def isAssign : Lexeme → Bool
  | assign _ => true
  | _ => false

end Lexeme

/-! ## Pieces -/

inductive Piece where
  | word (chars : List Char)
  | text (chars : List Char)
  | blank
  | mark (c : Char)

/-- What the next character belongs to; texts are kept backwards. -/
inductive Mode where
  | plain
  | text (reversed : List Char)
  | escape (reversed : List Char)
  | lineComment
  | blockComment

def marks : List Char :=
  ['+', '-', '*', '/', '%', '^', '=', '!', '>', '<', '&', '|', '(', ')', ',', ';']

/-- Puts a character in front of pieces; a word grows. -/
def addChar (c : Char) (pieces : List Piece) : List Piece :=
  if c ∈ marks then .mark c :: pieces
  else if Text.isBlank c then .blank :: pieces
  else
    match pieces with
    | .word chars :: rest => .word (c :: chars) :: rest
    | _ => .word [c] :: pieces

/-- The pieces of a text, unless a quoted text or a block comment has no end or an escape is
unknown. -/
def pieces? : Mode → List Char → Option (List Piece)
  | .plain, [] => some []
  | .lineComment, [] => some []
  | .blockComment, [] => none
  | .text _, [] => none
  | .escape _, [] => none
  | .plain, '/' :: '/' :: rest => pieces? .lineComment rest
  | .plain, '/' :: '*' :: rest => pieces? .blockComment rest
  | .plain, c :: rest =>
    if c = '"' then pieces? (.text []) rest else (pieces? .plain rest).map (addChar c)
  | .lineComment, c :: rest => pieces? (if c = '\n' then .plain else .lineComment) rest
  | .blockComment, '*' :: '/' :: rest => pieces? .plain rest
  | .blockComment, _ :: rest => pieces? .blockComment rest
  | .text reversed, c :: rest =>
    if c = '"' then (pieces? .plain rest).map (.text reversed.reverse :: ·)
    else if c = '\\' then pieces? (.escape reversed) rest
    else pieces? (.text (c :: reversed)) rest
  | .escape reversed, c :: rest =>
    if c = '"' ∨ c = '\\' then pieces? (.text (c :: reversed)) rest else none

/-! ## Constants -/

def hexInt? (chars : List Char) : Option (FixedInt .int64) :=
  match chars.mapM Digits.hexValue? with
  | none => none
  | some digits =>
    if digits.isEmpty then none
    else FixedInt.ofInt? .int64 (digits.foldl (fun number digit => 16 * number + digit) 0 : Nat)

def int? (chars : List Char) : Option (FixedInt .int64) :=
  match chars with
  | '0' :: 'x' :: digits => hexInt? digits
  | _ => (FixedInt.read .int64 chars).toOption

/-- A number is an integer if it can be one. -/
def constant? (chars : List Char) : Option Datum :=
  match int? chars with
  | some n => some (.int n)
  | none =>
    match Floating.read? .double chars with
    | some x => some (.float x)
    | none =>
      if chars = ['t', 'r', 'u', 'e'] then some (.bool true)
      else if chars = ['f', 'a', 'l', 's', 'e'] then some (.bool false)
      else none

/-! ## Lexemes -/

def comparison? (first : Char) : Option BinaryOperator :=
  match first with
  | '=' => some .equal
  | '!' => some .different
  | '>' => some .greaterOrEqual
  | '<' => some .lessOrEqual
  | _ => none

def single? : Char → Option Lexeme
  | '+' => some (.operator .add)
  | '-' => some .minus
  | '*' => some (.operator .multiply)
  | '/' => some (.operator .divide)
  | '%' => some (.operator .remainder)
  | '^' => some (.operator .power)
  | '=' => some (.assign true)
  | '!' => some .not
  | '>' => some (.operator .greater)
  | '<' => some (.operator .less)
  | '(' => some .opening
  | ')' => some .closing
  | ',' => some .comma
  | ';' => some .semicolon
  | _ => none

def isArithmetic (c : Char) : Bool :=
  c = '+' || c = '-' || c = '*' || c = '/' || c = '%' || c = '^'

def joined? (first second : Char) : Option Lexeme :=
  if second = '=' then
    match comparison? first with
    | some op => some (.operator op)
    | none => if isArithmetic first then some (.assign false) else none
  else if first = '&' ∧ second = '&' then some (.operator .and)
  else if first = '|' ∧ second = '|' then some (.operator .or)
  else none

/-- A word, a sign and a word may together be a number, such as `1e-3`. -/
def signedNumber? (chars : List Char) (sign : Char) (more : List Char) : Option Double :=
  if sign = '+' ∨ sign = '-' then Floating.read? .double (chars ++ sign :: more) else none

def ofPieces? : List Piece → Option (List Lexeme)
  | [] => some []
  | .blank :: rest => ofPieces? rest
  | .text chars :: rest => (ofPieces? rest).map (.constant (.text (String.ofList chars)) :: ·)
  | .word chars :: .mark sign :: .word more :: rest =>
    match constant? chars, signedNumber? chars sign more with
    | some datum, _ => (ofPieces? (.mark sign :: .word more :: rest)).map (.constant datum :: ·)
    | none, some x => (ofPieces? rest).map (.constant (.float x) :: ·)
    | none, none =>
      (ofPieces? (.mark sign :: .word more :: rest)).map (.word (String.ofList chars) :: ·)
  | .word chars :: rest =>
    let lexeme :=
      match constant? chars with
      | some datum => Lexeme.constant datum
      | none => .word (String.ofList chars)
    (ofPieces? rest).map (lexeme :: ·)
  | .mark first :: .mark second :: .mark third :: rest =>
    if third = '=' ∧ first = second ∧ (first = '&' ∨ first = '|') then
      (ofPieces? rest).map (.assign false :: ·)
    else
      match joined? first second, single? first with
      | some lexeme, _ => (ofPieces? (.mark third :: rest)).map (lexeme :: ·)
      | none, some lexeme =>
        (ofPieces? (.mark second :: .mark third :: rest)).map (lexeme :: ·)
      | none, none => none
  | .mark first :: .mark second :: rest =>
    match joined? first second, single? first with
    | some lexeme, _ => (ofPieces? rest).map (lexeme :: ·)
    | none, some lexeme => (ofPieces? (.mark second :: rest)).map (lexeme :: ·)
    | none, none => none
  | .mark first :: rest =>
    match single? first with
    | some lexeme => (ofPieces? rest).map (lexeme :: ·)
    | none => none

def lexemes? (text : String) : Option (List Lexeme) :=
  (pieces? .plain text.toList).bind ofPieces?

end Unflatten.Condition
