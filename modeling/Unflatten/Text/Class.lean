import Unflatten.Text.ClassTable

/-!
# Classes of characters

Blank, word and control characters, and the two classes that decide the form of a final sigma.
-/

set_option autoImplicit false

namespace Unflatten.Text

def InRanges (ranges : List (Nat × Nat)) (code : Nat) : Bool :=
  ranges.any fun range => range.1 ≤ code && code ≤ range.2

def isBlank (c : Char) : Bool :=
  InRanges blankRanges c.toNat

def isWord (c : Char) : Bool :=
  if c.toNat < 0x80 then c.isAlphanum else InRanges wordRanges c.toNat

def isControl (c : Char) : Bool :=
  c.toNat ≤ 0x1F || (0x7F ≤ c.toNat && c.toNat ≤ 0x9F)

def isCased (c : Char) : Bool :=
  if c.toNat < 0x80 then c.isAlpha else InRanges casedRanges c.toNat

/-- Characters that are looked through when the letters around a sigma are sought. -/
def isIgnorable (c : Char) : Bool :=
  InRanges ignorableRanges c.toNat

end Unflatten.Text
