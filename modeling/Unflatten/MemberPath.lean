import Unflatten.Text.Case

/-!
# Member paths

The segments of a flat name between its separators. Letter case does not matter in a separator,
and empty segments are left out.
-/

set_option autoImplicit false

namespace Unflatten

/-- Whether the separator stands at the start, characters compared in lower case. -/
def leads : List Char → List Char → Bool
  | [], _ => true
  | _ :: _, [] => false
  | s :: separator, c :: rest =>
    Text.lowerChar c == Text.lowerChar s && leads separator rest

/-- The pieces between separators. The first number counts the characters of a separator that are
still to be passed over. -/
def splitSegments (separator : List Char) : Nat → List Char → List (List Char)
  | _, [] => [[]]
  | skip + 1, _ :: rest => splitSegments separator skip rest
  | 0, c :: rest =>
    if leads separator (c :: rest) then
      [] :: splitSegments separator (separator.length - 1) rest
    else
      match splitSegments separator 0 rest with
      | [] => [[c]]
      | piece :: pieces => (c :: piece) :: pieces

def memberPath (name separator : String) : List String :=
  let folded := (Text.lower separator).toList
  if folded.isEmpty then [name]
  else
    ((splitSegments folded 0 name.toList).filter fun piece => !piece.isEmpty).map String.ofList

end Unflatten
