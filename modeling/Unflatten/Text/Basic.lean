import Unflatten.Text.Class

/-!
# Cutting and joining text

Functions over lists of characters and their counterparts on strings. Offsets count the bytes of
the UTF-8 form.
-/

set_option autoImplicit false

namespace Unflatten.Text

def trimStart (chars : List Char) : List Char :=
  chars.dropWhile isBlank

def trimEnd (chars : List Char) : List Char :=
  (chars.reverse.dropWhile isBlank).reverse

def trimChars (chars : List Char) : List Char :=
  trimEnd (trimStart chars)

def trim (text : String) : String :=
  String.ofList (trimChars text.toList)

def byteLength : List Char → Nat
  | [] => 0
  | c :: rest => c.utf8Size + byteLength rest

@[simp] theorem byteLength_append (left right : List Char) :
    byteLength (left ++ right) = byteLength left + byteLength right := by
  induction left with
  | nil => simp [byteLength]
  | cons c rest ih => simp [byteLength, ih, Nat.add_assoc]

/-- What is left after `count` bytes, unless the cut falls inside a character or behind the end. -/
def dropBytes? : Nat → List Char → Option (List Char)
  | 0, chars => some chars
  | _ + 1, [] => none
  | count + 1, c :: rest =>
    if c.utf8Size ≤ count + 1 then dropBytes? (count + 1 - c.utf8Size) rest else none

/-- The first `count` bytes, under the same conditions as `dropBytes?`. -/
def takeBytes? : Nat → List Char → Option (List Char)
  | 0, _ => some []
  | _ + 1, [] => none
  | count + 1, c :: rest =>
    if c.utf8Size ≤ count + 1 then (takeBytes? (count + 1 - c.utf8Size) rest).map (c :: ·) else none

/-- The rest of `chars` after the lead `lead`. -/
def afterLead? (lead : List Char) (chars : List Char) : Option (List Char) :=
  if lead.isPrefixOf chars then some (chars.drop lead.length) else none

def startsWith (text lead : String) : Bool :=
  lead.toList.isPrefixOf text.toList

def before? (part : List Char) : List Char → Option (List Char)
  | [] => if part.isEmpty then some [] else none
  | c :: rest =>
    if part.isPrefixOf (c :: rest) then some [] else (before? part rest).map (c :: ·)

def contains (text part : String) : Bool :=
  (before? part.toList text.toList).isSome

/-- Pieces between the characters that satisfy `isCut`; `n` cuts give `n + 1` pieces. -/
def splitChars (isCut : Char → Bool) : List Char → List (List Char)
  | [] => [[]]
  | c :: rest =>
    if isCut c then [] :: splitChars isCut rest
    else
      match splitChars isCut rest with
      | [] => [[c]]
      | piece :: pieces => (c :: piece) :: pieces

def splitOn (isCut : Char → Bool) (text : String) : List String :=
  (splitChars isCut text.toList).map String.ofList

/-- The texts before and after the last `cut`. -/
def splitLast? (cut : Char) (text : String) : Option (String × String) :=
  let reversed := text.toList.reverse
  let tail := reversed.takeWhile (· ≠ cut)
  match reversed.drop tail.length with
  | [] => none
  | _ :: head => some (String.ofList head.reverse, String.ofList tail.reverse)

def join (separator : String) (texts : List String) : String :=
  separator.intercalate texts

def repeated (count : Nat) (c : Char) : String :=
  String.ofList (List.replicate count c)

def padEnd (width : Nat) (text : String) : String :=
  text ++ repeated (width - text.length) ' '

end Unflatten.Text
