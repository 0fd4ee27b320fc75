import Unflatten.Number.Shortest

/-!
# Markup

The tree of a settings or shape document. A plain scalar has no type of its own: it is text where
text is wanted and a number where a number is wanted. An empty plain scalar is also an empty list
and an empty mapping. A positional list is one of a format in which lists also stand for records,
their items being the fields in order.
-/

set_option autoImplicit false

namespace Unflatten

inductive Markup where
  | plain (text : String)
  | string (text : String)
  | null
  | bool (b : Bool)
  | integer (n : Int)
  | real
  | list (items : List Markup)
  | positional (items : List Markup)
  | mapping (entries : List (String × Markup))

instance : Inhabited Markup := ⟨.null⟩

namespace Markup

def isNullWord (text : String) : Bool :=
  text.isEmpty || text == "~" || text == "null" || text == "Null" || text == "NULL"

def truthOf? (text : String) : Option Bool :=
  if text == "true" || text == "True" || text == "TRUE" then some true
  else if text == "false" || text == "False" || text == "FALSE" then some false
  else none

/-- Zeros in front of other digits make a text and not a number. -/
def hasLeadingZero (digits : List Char) : Bool :=
  match digits with
  | '0' :: rest => !rest.isEmpty && rest.all Digits.isDigit
  | _ => false

def digitValue? (base : Nat) (c : Char) : Option Nat :=
  (Digits.hexValue? c).filter (· < base)

def natOf? (base : Nat) (chars : List Char) : Option Nat :=
  match chars.mapM (digitValue? base) with
  | none => none
  | some digits =>
    if digits.isEmpty then none
    else some (digits.foldl (fun number digit => base * number + digit) 0)

/-- A number without a sign; a lead may say that its base is sixteen, eight or two. -/
def magnitudeOf? : List Char → Option Nat
  | '0' :: 'x' :: digits => natOf? 16 digits
  | '0' :: 'o' :: digits => natOf? 8 digits
  | '0' :: 'b' :: digits => natOf? 2 digits
  | digits => if hasLeadingZero digits then none else natOf? 10 digits

def integerOf? (text : String) : Option Int :=
  match text.toList with
  | '+' :: digits => (magnitudeOf? digits).map Int.ofNat
  | '-' :: digits => (magnitudeOf? digits).map fun n => -(n : Int)
  | digits => (magnitudeOf? digits).map Int.ofNat

def isReal (text : String) : Bool :=
  let unsigned :=
    match text.toList with
    | '+' :: rest => rest
    | '-' :: rest => rest
    | rest => rest
  let words := [".inf", ".Inf", ".INF", ".nan", ".NaN", ".NAN"]
  words.contains (String.ofList unsigned) ||
    (!hasLeadingZero unsigned &&
      match Floating.readUnsigned? .double false unsigned with
      | some x => x.isFinite
      | none => false)

/-! ## Views -/

def text? : Markup → Option String
  | plain text => some text
  | string text => some text
  | _ => none

def truth? : Markup → Option Bool
  | plain text => truthOf? text
  | bool b => some b
  | _ => none

def integer? : Markup → Option Int
  | plain text => integerOf? text
  | integer n => some n
  | _ => none

def isMissing : Markup → Bool
  | plain text => isNullWord text
  | null => true
  | _ => false

def list? : Markup → Option (List Markup)
  | list items => some items
  | positional items => some items
  | plain text => if text.isEmpty then some [] else none
  | _ => none

def mapping? : Markup → Option (List (String × Markup))
  | mapping entries => some entries
  | plain text => if text.isEmpty then some [] else none
  | _ => none

def typed : Markup → Markup
  | plain text =>
    if isNullWord text then null
    else
      match truthOf? text with
      | some b => bool b
      | none =>
        match integerOf? text with
        | some n => integer n
        | none => if isReal text then real else string text
  | other => other

end Markup

end Unflatten
