import Unflatten.Number.Digits
import Unflatten.Text.HiddenTable

/-!
# Quoted text

Text in double quotes for messages. Quotes, backslashes and line ends are escaped by a backslash,
characters that show nothing by their code point in hexadecimal.
-/

set_option autoImplicit false

namespace Unflatten.Text

def isHidden (c : Char) : Bool :=
  InRanges hiddenRanges c.toNat

def quotedChar (c : Char) : List Char :=
  if c = '"' then ['\\', '"']
  else if c = '\\' then ['\\', '\\']
  else if c = '\n' then ['\\', 'n']
  else if c = '\r' then ['\\', 'r']
  else if c = '\t' then ['\\', 't']
  else if c = '\x00' then ['\\', '0']
  else if isHidden c then
    ['\\', 'u', '\x7b'] ++ Nat.toDigits 16 c.toNat ++ ['\x7d']
  else [c]

def quoted (text : String) : String :=
  String.ofList ('"' :: text.toList.flatMap quotedChar ++ ['"'])

end Unflatten.Text
