import Unflatten.CommandLine.Run

/-!
# Program

Reads the files that the command names, runs the command and prints what it reports.
-/

set_option autoImplicit false

namespace Unflatten.CommandLine

partial def readAll (stream : IO.FS.Stream) (text : String) : IO String := do
  let line ← stream.getLine
  if line.isEmpty then pure text else readAll stream (text ++ line)

def readFile? (path : String) : IO (Option String) := do
  try
    pure (some (← IO.FS.readFile path))
  catch _ => pure none

def Command.inputs : Command → List String
  | .map command => [command.shape, command.input]
  | .columns command => [command.input]

def Command.readsStandardInput : Command → Bool
  | .map command => Delimited.Input.ofPath command.input = .standard
  | .columns command => Delimited.Input.ofPath command.input = .standard

def surroundings (command : Command) : IO Surroundings := do
  let texts ← command.inputs.mapM fun path => do pure (path, ← readFile? path)
  let standardInput ←
    if command.readsStandardInput then readAll (← IO.getStdin) "" else pure ""
  pure ⟨fun path => (texts.lookup path).bind id, standardInput⟩

def usageText : String :=
  "usage: map -i <path> -s <path> [-t name:type]... [--separator <text>] [--delimiter <text>]"
    ++ " [--explain] [--pretty]\n"
    ++ "       columns -i <path> [-t name:type]... [--separator <text>] [--delimiter <text>]"

end Unflatten.CommandLine

open Unflatten.CommandLine in
def main (arguments : List String) : IO UInt32 := do
  match Command.ofArguments arguments with
  | none =>
    IO.eprintln usageText
    pure (UInt32.ofNat Report.usage.status)
  | some command =>
    let report := command.run (← surroundings command)
    IO.eprint report.messages
    IO.print report.output
    pure (UInt32.ofNat report.status)
