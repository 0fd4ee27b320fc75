import Unflatten.Hex

/-!
# Identifiers of sixteen bytes

Written as five groups of hexadecimal digits. `read` accepts the groups with or without their
hyphens, a lead `urn:uuid:` before hyphenated groups, and any number of braces around them.
-/

set_option autoImplicit false

namespace Unflatten

structure Guid where
  bytes : List UInt8
  length_eq : bytes.length = 16
  deriving DecidableEq

namespace Guid

def ofBytes? (bytes : List UInt8) : Option Guid :=
  if h : bytes.length = 16 then some ⟨bytes, h⟩ else none

def zero : Guid :=
  ⟨List.replicate 16 0, by simp⟩

instance : Inhabited Guid := ⟨zero⟩

def grouped : List Nat → List Char → List (List Char)
  | [], chars => [chars]
  | count :: counts, chars => chars.take count :: grouped counts (chars.drop count)

def chars (guid : Guid) : List Char :=
  ['-'].intercalate (grouped [8, 4, 4, 4] (Hex.encode guid.bytes))

def text (guid : Guid) : String :=
  String.ofList guid.chars

inductive Fault where
  | character (found : Char) (position : Nat)
  | simpleLength (found : Nat)
  | groupCount (found : Nat)
  | groupLength (group expected found : Nat)
  deriving DecidableEq, Repr

def Fault.message : Fault → String
  | character found position =>
    "invalid character: expected an optional prefix of `urn:uuid:` followed by [0-9a-fA-F-], found `"
      ++ String.singleton found ++ "` at " ++ Digits.text position
  | simpleLength found =>
    "invalid length: expected length 32 for simple format, found " ++ Digits.text found
  | groupCount found => "invalid group count: expected 5, found " ++ Digits.text found
  | groupLength group expected found =>
    "invalid group length in group " ++ Digits.text group ++ ": expected " ++ Digits.text expected
      ++ ", found " ++ Digits.text found

def hexBytes? : List Char → Option (List UInt8)
  | [] => some []
  | [_] => none
  | high :: low :: rest =>
    match Digits.hexValue? high, Digits.hexValue? low, hexBytes? rest with
    | some first, some second, some bytes => some (UInt8.ofNat (16 * first + second) :: bytes)
    | _, _, _ => none

/-- Digits of five groups that are separated by hyphens at their places. -/
def readHyphenated? (chars : List Char) : Option Guid :=
  match Text.splitChars (· = '-') chars with
  | [a, b, c, d, e] =>
    if a.length = 8 ∧ b.length = 4 ∧ c.length = 4 ∧ d.length = 4 ∧ e.length = 12 then
      (hexBytes? (a ++ b ++ c ++ d ++ e)).bind ofBytes?
    else none
  | _ => none

def urnLead : List Char := "urn:uuid:".toList

def read? (chars : List Char) : Option Guid :=
  if Text.byteLength chars = 32 then (hexBytes? chars).bind ofBytes?
  else if Text.byteLength chars = 36 then readHyphenated? chars
  else
    match Text.afterLead? urnLead chars with
    | some rest => readHyphenated? rest
    | none => none

def strayCharacter? : Nat → List Char → Option (Char × Nat)
  | _, [] => none
  | position, c :: rest =>
    if c = '-' ∨ (Digits.hexValue? c).isSome then strayCharacter? (position + c.utf8Size) rest
    else some (c, position)

def diagnose (chars : List Char) : Fault :=
  let body := (Text.afterLead? urnLead chars).getD chars
  let offset := Text.byteLength chars - Text.byteLength body
  match strayCharacter? (offset + 1) body with
  | some (c, position) => .character c position
  | none =>
    let groups := (Text.splitChars (· = '-') body).map List.length
    if groups.length = 1 ∧ offset = 0 then .simpleLength chars.length
    else if groups.length ≠ 5 then .groupCount groups.length
    else
      match ((groups.zip [8, 4, 4, 4]).zipIdx).find? fun entry => entry.1.1 ≠ entry.1.2 with
      | some ((found, expected), group) => .groupLength group expected found
      | none => .groupLength 4 12 (chars.length - 24)

def isBrace (c : Char) : Bool :=
  c = '\x7b' || c = '\x7d'

def trimBraces (chars : List Char) : List Char :=
  ((chars.dropWhile isBrace).reverse.dropWhile isBrace).reverse

def read (chars : List Char) : Except Fault Guid :=
  let body := trimBraces (Text.trimChars chars)
  match read? body with
  | some guid => .ok guid
  | none => .error (diagnose body)

end Guid

end Unflatten
