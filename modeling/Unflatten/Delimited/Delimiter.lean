import Unflatten.Text.Basic
import Unflatten.Text.Case

/-!
# Delimiters and inputs

A delimiter is given by its name or as one ASCII character; else the ending of the input's path
decides. The path `-` is the standard input.
-/

set_option autoImplicit false

namespace Unflatten.Delimited

inductive DelimiterFault where
  | empty
  | notAscii
  | notSingle (text : String)
  deriving DecidableEq, Repr

def DelimiterFault.message : DelimiterFault → String
  | empty => "Delimiter cannot be empty"
  | notAscii => "Delimiter must be ASCII"
  | notSingle text =>
    "Delimiter '" ++ text
      ++ "' must be a single character or one of tab, comma, pipe, semicolon"

def delimiterNames : List (String × Char) :=
  [("tab", '\t'), ("comma", ','), ("pipe", '|'), ("semicolon", ';')]

def readDelimiter (text : String) : Except DelimiterFault Char :=
  match delimiterNames.find? fun entry => Text.equalIgnoringCase entry.1 text with
  | some (_, delimiter) => .ok delimiter
  | none =>
    match text.toList with
    | [] => .error .empty
    | [c] => if c.toNat < 0x80 then .ok c else .error .notAscii
    | _ => .error (.notSingle text)

def delimiterText (delimiter : Char) : String :=
  if delimiter = '\t' then "\\t"
  else if delimiter = '\n' then "\\n"
  else String.singleton delimiter

inductive Input where
  | standard
  | file (path : String)
  deriving DecidableEq, Repr

namespace Input

/-- The parts of a path between slashes; empty ones and dots behind the start do not count. -/
def pathParts (path : String) : List String :=
  match Text.splitOn (· = '/') path with
  | [] => []
  | first :: rest => first :: rest.filter fun part => !part.isEmpty && part != "."

def ofPath (path : String) : Input :=
  if pathParts path = ["-"] then .standard else .file path

/-- The ending of a file name behind its last point, which is not its first character. -/
def ending? (name : String) : Option String :=
  if name = ".." then none
  else
    match Text.splitLast? '.' name with
    | some (stem, ending) => if stem.isEmpty then none else some ending
    | none => none

/-- The delimiter given, or else a tab for `tsv` files and a comma for others. -/
def delimiter (input : Input) (given : Option Char) : Char :=
  match given, input with
  | some delimiter, _ => delimiter
  | none, .standard => ','
  | none, .file path =>
    match (pathParts path).getLast?.bind ending? with
    | some ending => if Text.equalIgnoringCase ending "tsv" then '\t' else ','
    | none => ','

def describe : Input → String
  | standard => "<stdin>"
  | file path => path

end Input

end Unflatten.Delimited
