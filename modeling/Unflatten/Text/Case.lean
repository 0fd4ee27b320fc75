import Unflatten.Text.CaseTable
import Unflatten.Text.Class

/-!
# Letter case

`lower` and `upper` change a whole text, character by character; a character may become several.
One character depends on its surroundings: a capital sigma that ends a word becomes `ς`, any other
becomes `σ`. The ASCII folds change the twenty-six Latin letters only.
-/

set_option autoImplicit false

namespace Unflatten.Text

def CaseRun.covers (run : CaseRun) (code : Nat) : Bool :=
  run.first ≤ code && code ≤ run.last && (code - run.first) % run.step == 0

def shiftedBy (runs : List CaseRun) (c : Char) : Char :=
  match runs.find? fun run => run.covers c.toNat with
  | some run => Char.ofNat (Int.toNat (c.toNat + run.shift))
  | none => c

def changed (runs : List CaseRun) (expansions : List (Nat × List Nat)) (c : Char) : List Char :=
  match expansions.lookup c.toNat with
  | some codes => codes.map Char.ofNat
  | none => [shiftedBy runs c]

def lowerChar (c : Char) : List Char :=
  if c.toNat < 0x80 then [c.toLower] else changed lowerRuns lowerExpansions c

def upperChar (c : Char) : List Char :=
  if c.toNat < 0x80 then [c.toUpper] else changed upperRuns upperExpansions c

/-- Whether the first character that is not ignorable has letter case. -/
def leadsToCased (chars : List Char) : Bool :=
  match chars.dropWhile isIgnorable with
  | [] => false
  | c :: _ => isCased c

/-- `before` holds the characters to the left, nearest first. -/
def lowerFrom (before : List Char) : List Char → List Char
  | [] => []
  | c :: rest =>
    let here :=
      if c = 'Σ' then
        if leadsToCased before && !leadsToCased rest then ['ς'] else ['σ']
      else lowerChar c
    here ++ lowerFrom (c :: before) rest

def lowerChars (chars : List Char) : List Char :=
  lowerFrom [] chars

def lower (text : String) : String :=
  String.ofList (lowerChars text.toList)

def upper (text : String) : String :=
  String.ofList (text.toList.flatMap upperChar)

def asciiLower (text : String) : String :=
  String.ofList (text.toList.map Char.toLower)

def equalIgnoringCase (left right : String) : Bool :=
  left.toList.map Char.toLower == right.toList.map Char.toLower

theorem equalIgnoringCase_iff (left right : String) :
    equalIgnoringCase left right = true ↔ asciiLower left = asciiLower right := by
  simp [equalIgnoringCase, asciiLower, String.ofList_inj]

end Unflatten.Text
